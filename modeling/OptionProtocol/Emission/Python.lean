import OptionProtocol.Emission.Generator
import OptionProtocol.Emission.Import
import OptionProtocol.Emission.Layout
import OptionProtocol.Emission.Member

/-! The generator for Python: one module with one class for each definition. -/

set_option autoImplicit false

namespace OptionProtocol

/-- The base classes of a class as they are written, with the classes that they stand for and
the statements that make those known. -/
structure Bases where
  names : List String := []
  known : List (String × String) := []
  statements : List String := []
  handlesOptions : Bool := false
  deriving DecidableEq, Repr

namespace Bases

/-- How the contract of option handlers is written in a generated class. -/
def handlerName : String := "codec.OptionHandler"

def withName (b : Bases) (name : String) : Bases :=
  if b.names.contains name then b else { b with names := b.names ++ [name] }

/-- One more base class. Two different classes must not have the same last name. -/
def add (b : Bases) (dotted : String) : Except BaseClash Bases :=
  if Name.isCapability dotted then
    .ok { b.withName handlerName with handlesOptions := true }
  else
    let name := Name.last dotted
    let next : Bases := { b.withName name with
      known := b.known ++ [(name, dotted)]
      statements := b.statements ++ (Import.ofClass dotted).toList }
    match b.known.lookup name with
    | some first => if first = dotted then .ok next else .error ⟨first, dotted, name⟩
    | none => .ok next

def addAll (b : Bases) : List String → Except BaseClash Bases
  | [] => .ok b
  | dotted :: rest =>
      match b.add dotted with
      | .ok b => b.addAll rest
      | .error clash => .error clash

/-- The base classes of a definition: superclass, capabilities, and for a root the contract
of option handlers. -/
def ofDefinition (d : Definition) : Except BaseClash Bases :=
  let names := (if d.superclass = "" then [] else [d.superclass]) ++ d.implement
  ({} : Bases).addAll names |>.map fun b =>
    if d.isRoot && !b.handlesOptions then { b with names := b.names ++ [handlerName] } else b

end Bases

def Text.withUpperStart (s : String) : String :=
  match s.toList with
  | [] => s
  | c :: rest => Text.uppered (String.singleton c) ++ String.ofList rest

namespace Python

def optionText (option : OptionDefinition) (name : String) : OptionText :=
  let constant := Text.uppered name
  let element := option.type.element
  let kind := "codec.OptionKind." ++ element.kind.constant
  let base := match element.className? with
    | some className => ", base=" ++ className
    | none => ""
  let flagRef := "self." ++ constant
  let defaultCall := "self.get_default_" ++ name ++ "()"
  let getterCall := "self.get_" ++ name ++ "()"
  let tipCall := "self." ++ name ++ "_tip_text()"
  let listCall := "codec.add_option(result, " ++ tipCall ++ ", " ++ defaultCall ++ ", " ++
    flagRef ++ ")"
  let calls : String × String × String :=
    if option.type.isArray then
      ("codec.parse_array(tokens, " ++ flagRef ++ ", " ++ defaultCall ++ ", " ++ kind ++ base ++
         ")",
       "codec.add_array(result, " ++ flagRef ++ ", " ++ getterCall ++ ", " ++ kind ++ ")",
       listCall)
    else if element.kind = .flag then
      ("codec.parse_flag(tokens, " ++ flagRef ++ ")",
       "codec.add_flag(result, " ++ flagRef ++ ", " ++ getterCall ++ ")",
       "codec.add_flag_option(result, " ++ tipCall ++ ", " ++ flagRef ++ ")")
    else
      ("codec.parse(tokens, " ++ flagRef ++ ", " ++ defaultCall ++ ", " ++ kind ++ base ++ ")",
       "codec.add(result, " ++ flagRef ++ ", " ++ getterCall ++ ", " ++ kind ++ ")",
       listCall)
  { property := option.property
    field := name
    constant := constant
    flag := option.flag
    default := option.default
    constraint := option.constraint
    tip := Text.withUpperStart option.help
    annotation := Import.annotation option.type
    parseCall := calls.1
    addCall := calls.2.1
    listCall := calls.2.2 }

structure Style where
  typeHints : Bool := true
  forwardsArguments : Bool := true
  deriving DecidableEq, Repr

def Style.receiver : String := "optionhandler.codegen.languages.python.config.PythonConfig"

/-- The style in the custom settings. They have to be named settings, and none of them may be
called like the receiver itself. -/
def Style.ofConfiguration (c : Configuration) : Except CreationFault Style :=
  match c.custom with
  | .object members =>
      let setting (name : String) : Bool :=
        ((Json.lookup? members name).map Json.isTruthy).getD true
      if c.hasUnnamed then .error .customUnnamed
      else if (Json.lookup? members "self").isSome then
        .error (.customRepeats Style.receiver "self")
      else .ok ⟨setting "type_hints", setting "forward_init_args"⟩
  | custom => .error (.customNotMapping Style.receiver custom.kindName)

/-- The year of copyright notices when a configuration sets none. -/
def defaultYear : Json := .int 2024

def extension : String := ".py"

/-- Modules are called like their classes, if the configuration asks for that. -/
def keepsClassName (c : Configuration) : Bool :=
  match c.moduleCase with
  | .text style => style == "original"
  | _ => false

def fileName (c : Configuration) (d : Definition) : String :=
  (if keepsClassName c then d.className else Name.convert .snake d.className) ++ extension

/-- The import of the codec that the configuration names, if that is a text. -/
def codecImport : Json → Except ValueFault String
  | .text module => .ok (Import.codec module)
  | .array _ | .object _ => .error .noSuchMember
  | _ => .error .wrongType

def namedOptions (d : Definition) : List (OptionDefinition × String) :=
  d.options.zip d.attributes

def importStatements (codec : String) (bases : Bases) (d : Definition) : List String :=
  ["import logging", codec] ++ bases.statements ++
    d.options.filterMap (fun option => Import.required? option.type) ++
    d.imports.map Import.extra

def moduleText (c : Configuration) (style : Style) (codec : String) (bases : Bases)
    (d : Definition) : ModuleText where
  fileName := fileName c d
  licenseHeader := if c.licenseHeader.isTruthy then some c.licenseHeader.plain else none
  year := (if c.copyrightYear.isTruthy then c.copyrightYear else defaultYear).plain
  organization := d.organization
  author := d.author
  name := d.name
  className := d.className
  bases := bases.names
  imports := Import.sort (importStatements codec bases d)
  options := (namedOptions d).map fun entry => optionText entry.1 entry.2
  isRoot := d.isRoot
  comments := c.addComments.isTruthy
  properties := c.generateProperties.isTruthy
  typeHints := style.typeHints
  forwardsArguments := style.forwardsArguments

def emit (c : Configuration) (style : Style) (d : Definition) : Except Failure String :=
  match codecImport c.codecModule with
  | .error fault => .error (.value fault)
  | .ok codec =>
      match Bases.ofDefinition d with
      | .error clash => .error (.bases clash)
      | .ok bases => .ok (moduleText c style codec bases d).text

/-- Options whose attribute is not their property in snake case. -/
def renamings (d : Definition) : List String :=
  (namedOptions d).filterMap fun entry =>
    if entry.2 = Name.convert .snake entry.1.property then none
    else some ("Option " ++ d.className ++ "." ++ entry.1.property ++ " renamed to " ++ entry.2)

def generator (c : Configuration) (style : Style) : Generator where
  language := "python"
  extension := extension
  className := "PythonGenerator"
  configuration := c
  templates := ["option_handler.py.j2"]
  warnings d := d.warnings ++ renamings d
  emit := emit c style
  fileName := fileName c

def generatorClass : GeneratorClass where
  name := "PythonGenerator"
  moduleName := "optionhandler.codegen.languages.python.generator"
  create c := (Style.ofConfiguration c).map (generator c)

end Python

end OptionProtocol
