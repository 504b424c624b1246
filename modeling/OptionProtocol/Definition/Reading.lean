import OptionProtocol.Definition.Basic
import OptionProtocol.Expression.Basic
import OptionProtocol.Logging
import OptionProtocol.Name.Case

/-! Reading class definitions from JSON values. -/

set_option autoImplicit false

namespace OptionProtocol

abbrev Members := List (String × Json)

namespace Definition

def invalid {α : Type} (context : String) (cause : DefinitionCause) :
    Except DefinitionFault α := .error (.invalid context cause)

def ensure (holds : Bool) (context : String) (cause : DefinitionCause) :
    Except DefinitionFault Unit :=
  if holds then .ok () else invalid context cause

def requiredText (context : String) (members : Members) (key : String) :
    Except DefinitionFault String :=
  match Json.lookup? members key with
  | some (.text value) =>
      if Text.isAllBlank value then invalid context (.missingField key) else .ok value
  | _ => invalid context (.missingField key)

/-- A text without the blanks around it; empty when it is missing or null. -/
def optionalText (context : String) (members : Members) (key : String) :
    Except DefinitionFault String :=
  match Json.lookup? members key with
  | none | some .null => .ok ""
  | some (.text value) => .ok (Text.trimmed value)
  | some _ => invalid context (.notText key)

def textsOf? : List Json → Option (List String)
  | [] => some []
  | .text value :: rest => (textsOf? rest).map (value :: ·)
  | _ => none

/-- A list of texts without the blanks around them; empty when it is missing or null. -/
def textList (context : String) (members : Members) (key : String) :
    Except DefinitionFault (List String) :=
  match Json.lookup? members key with
  | none | some .null => .ok []
  | some (.array values) =>
      match textsOf? values with
      | some texts => .ok (texts.map Text.trimmed)
      | none => invalid context (.notTextList key)
  | some _ => invalid context (.notTextList key)

def checkDotted (context key value : String) : Except DefinitionFault Unit :=
  if value = "" ∨ Name.isDotted value then .ok () else invalid context (.notDotted key value)

/-- The text of an expression: numbers and truth values stand for themselves. -/
def expressionText? : Json → Option String
  | .bool value => some (Json.boolText value)
  | .int value => some (Number.intText value)
  | .float value => some value.text
  | .text value => some value
  | _ => none

def expression (context key : String) (value : Json) : Except DefinitionFault String :=
  match expressionText? value with
  | none => invalid context (.emptyExpression key)
  | some text =>
      if Text.isAllBlank text then invalid context (.emptyExpression key)
      else if !Expression.isReadable text then .error .nullCharacter
      else if !Expression.isValid text then invalid context (.invalidExpression key text)
      else .ok (Text.trimmed text)

/-- A small letter followed by letters, digits and underscores; a line end may follow. -/
def isProperty (s : List Char) : Bool :=
  match s with
  | [] => false
  | c :: rest =>
      let rest := if rest.getLast? = some '\n' then rest.dropLast else rest
      c.isLower && rest.all fun c => c.isAlphanum || c == '_'

def optionProperty (context : String) (given : Json) : Except DefinitionFault String :=
  match given with
  | .text property =>
      if isProperty property.toList then .ok property
      else invalid context (.invalidProperty given)
  | _ => invalid context (.invalidProperty given)

/-- The flag of an option and whether it comes from the property. -/
def optionFlag (context property : String) (members : Members) :
    Except DefinitionFault (String × Bool) :=
  let given := (Json.lookup? members "flag").getD .null
  let derived := match given with
    | .null => true
    | .text flag => flag == ""
    | _ => false
  let given := if derived then .text (Name.deriveFlag property) else given
  match given with
  | .text flag =>
      if flag.toList.head? = some '-' ∨ flag.toList.any Text.isBlank then
        invalid context (.invalidFlag given)
      else .ok (flag, derived)
  | _ => invalid context (.invalidFlag given)

def optionType (context : String) (value : Json) : Except DefinitionFault OptionType :=
  let result := match value with
    | .text written => OptionType.parse written
    | _ => .error .missing
  match result with
  | .ok type => .ok type
  | .error cause => .error (.unsupportedType context cause)

def optionConstraint (context : String) (members : Members) :
    Except DefinitionFault (Option String) :=
  match (Json.lookup? members "constraint").getD .null with
  | .null => .ok none
  | value => (expression context "constraint" value).map some

def optionHelp (context : String) (members : Members) : Except DefinitionFault String :=
  match (Json.lookup? members "help").getD (.text "") with
  | .text help => .ok help
  | _ => invalid context (.notText "help")

def requiredMember (context : String) (members : Members) (key : String) :
    Except DefinitionFault Json :=
  match Json.lookup? members key with
  | some value => .ok value
  | none => invalid context (.missingField key)

def readOption (context : String) (value : Json) : Except DefinitionFault OptionDefinition :=
  match value with
  | .object members => do
      let given ← requiredMember context members "property"
      let type ← requiredMember context members "type"
      let default ← requiredMember context members "default"
      let property ← optionProperty context given
      let context := context ++ "'" ++ property ++ "': "
      let type ← optionType context type
      let (flag, flagDerived) ← optionFlag context property members
      let default ← expression context "default" default
      let constraint ← optionConstraint context members
      let help ← optionHelp context members
      return { property, type, flag, default, constraint, help, flagDerived }
  | _ => invalid context .optionNotObject

/-- Options in their order, with properties and flags different from those `seen`. -/
def readOptions (context : String) (seen : List OptionDefinition) (number : Nat) :
    List Json → Except DefinitionFault (List OptionDefinition)
  | [] => .ok seen
  | value :: rest => do
      let option ← readOption (context ++ "option #" ++ Number.intText number ++ ": ") value
      if seen.any fun other => other.property == option.property then
        invalid context (.duplicateProperty option.property)
      else if seen.any fun other => other.flag == option.flag then
        invalid context (.duplicateFlag option.flag)
      else readOptions context (seen ++ [option]) (number + 1) rest

/-- Whether the class is a root, and whether it only is for want of a superclass. -/
def determineRoot (context : String) (members : Members) (d : Definition) :
    Except DefinitionFault (Bool × Bool) :=
  match Json.lookup? members "root" with
  | some (.bool root) =>
      if !root && d.superclass = "" then invalid context .noSuperclass else .ok (root, false)
  | some _ => invalid context .rootNotBool
  | none =>
      if d.implement.any Name.isCapability then .ok (true, false)
      else if d.superclass = "" then .ok (true, true)
      else .ok (false, false)

def orphanMessage (context : String) : String :=
  context ++ "no superclass to chain option handling to, generating a root class"

def optionValues (context : String) (members : Members) : Except DefinitionFault (List Json) :=
  match (Json.lookup? members "options").getD (.array []) with
  | .array values => .ok values
  | _ => invalid context .optionsNotList

/-- How messages about a definition from the source begin. -/
def placeOf (source : Option String) : String :=
  match source with
  | none => ""
  | some source => if source = "" then "" else source ++ ": "

def ofMembers (source : Option String) (members : Members) :
    Except DefinitionFault (Definition × List LogRecord) := do
  let place := placeOf source
  let name ← requiredText place members "name"
  let author ← requiredText place members "author"
  let organization ← requiredText place members "organization"
  let context := place ++ "definition '" ++ name ++ "': "
  ensure (Text.isIdentifier name.toList) context .invalidName
  let package ← optionalText context members "package"
  let namePrefix ← optionalText context members "prefix"
  let nameSuffix ← optionalText context members "suffix"
  let superclass ← optionalText context members "superclass"
  let implement ← textList context members "implement"
  let imports ← textList context members "imports"
  let named : Definition :=
    { name, author, organization, package, namePrefix, nameSuffix, superclass, implement,
      imports, source }
  ensure (Text.isIdentifier named.className.toList) context
    (.invalidClassName named.className)
  checkDotted context "package" package
  checkDotted context "superclass" superclass
  implement.forM (checkDotted context "implement")
  let values ← optionValues context members
  let options ← readOptions context [] 1 values
  let (isRoot, orphan) ← determineRoot context members named
  return ({ named with options, isRoot },
    if orphan then [⟨.warning, orphanMessage context⟩] else [])

def ofJson (source : Option String) (value : Json) :
    Except DefinitionFault (Definition × List LogRecord) :=
  match value with
  | .object members => ofMembers source members
  | value => invalid (placeOf source) (.notAnObject value.kindName)

end Definition

end OptionProtocol
