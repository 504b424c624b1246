import OptionProtocol.Json.Basic
import OptionProtocol.Name.Dotted

/-! Configurations of generators: known settings, and custom ones that only some generator
knows. Settings are not checked when they are read. -/

set_option autoImplicit false

namespace OptionProtocol

structure Configuration where
  licenseHeader : Json := .text ""
  copyrightYear : Json := .null
  codecModule : Json := .text "optionhandler.codec"
  moduleCase : Json := .text "snake"
  addComments : Json := .bool true
  generateProperties : Json := .bool true
  custom : Json := .object []
  /-- Some key of the custom settings is no text, so they cannot all be handed on by name. -/
  hasUnnamed : Bool := false
  deriving Repr

inductive SettingsFault where
  | notIterable (kind : String)
  | noPair (index : Nat)
  | wrongLength
  | unhashable (kind : String)
  | noSplit
  deriving DecidableEq, Repr

/-- The words for a fault of the type of a value; faults of its content have none. -/
def SettingsFault.typeMessage? : SettingsFault → Option String
  | .notIterable kind => some ("'" ++ kind ++ "' object is not iterable")
  | .noPair index =>
      some ("cannot convert dictionary update sequence element #" ++ Number.intText index ++
        " to a sequence")
  | .unhashable kind => some ("unhashable type: '" ++ kind ++ "'")
  | .wrongLength | .noSplit => none

namespace Configuration

/-- A setting from its key, which is written as the name of a member, and its value. -/
def pairOf (key value : Json) : Except SettingsFault (String × Json) :=
  match key with
  | .array _ | .object _ => .error (.unhashable key.kindName)
  | .null => .ok ("null", value)
  | .bool truth => .ok (if truth then "true" else "false", value)
  | key => .ok (key.plain, value)

/-- The key and the value in an item of a list of settings. -/
def pairOfItem (index : Nat) : Json → Except SettingsFault (String × Json)
  | .array [key, value] => pairOf key value
  | .object [(key, _), (value, _)] => .ok (key, .text value)
  | .text s =>
      match s.toList with
      | [key, value] => .ok (String.singleton key, .text (String.singleton value))
      | _ => .error .wrongLength
  | .array _ | .object _ => .error .wrongLength
  | _ => .error (.noPair index)

def pairsOfItems (index : Nat) : List Json → Except SettingsFault (List (String × Json))
  | [] => .ok []
  | item :: rest => do
      let pair ← pairOfItem index item
      let more ← pairsOfItems (index + 1) rest
      return pair :: more

/-- One of the pairs has a key that is no text. -/
def hasUnnamedKey : Json → Bool
  | .array items => items.any fun
      | .array [.text _, _] => false
      | .array [_, _] => true
      | _ => false
  | _ => false

/-- The settings in a value: the members of an object, or a list of pairs. -/
def settings : Json → Except SettingsFault (List (String × Json))
  | .object members => .ok members
  | .array items => pairsOfItems 0 items
  | .text "" => .ok []
  | .text _ => .error .wrongLength
  | value => .error (.notIterable value.kindName)

/-- The settings a configuration is made from when nothing else is said about a language. -/
def defaultsFor (language : String) : List (String × Json) :=
  if language = "python" then
    [("codec_module", .text "optionhandler.codec"), ("module_case", .text "snake"),
     ("add_comments", .bool true), ("generate_properties", .bool true)]
  else []

def languages : List String := ["python"]

def knownKeys : List String := [
  "license_header", "copyright_year", "codec_module", "module_case", "add_comments",
  "generate_properties", "custom"]

/-- A configuration from settings. Those that are not known become custom ones. -/
def ofSettings (members : List (String × Json)) : Except SettingsFault Configuration := do
  let unknown := members.filter fun entry => !knownKeys.contains entry.1
  let setting (key : String) (default : Json) := (Json.lookup? members key).getD default
  let given := setting "custom" (.object [])
  let custom ←
    if unknown.isEmpty then pure given
    else (settings given).map fun given => Json.object (Json.putAll (Json.putAll [] given) unknown)
  let start : Configuration := {}
  return {
    licenseHeader := setting "license_header" start.licenseHeader
    copyrightYear := setting "copyright_year" start.copyrightYear
    codecModule := setting "codec_module" start.codecModule
    moduleCase := setting "module_case" start.moduleCase
    addComments := setting "add_comments" start.addComments
    generateProperties := setting "generate_properties" start.generateProperties
    custom
    hasUnnamed := !unknown.isEmpty && hasUnnamedKey given }

def ofKnown? (members : List (String × Json)) : Option Configuration :=
  if members.all fun entry => knownKeys.contains entry.1 then (ofSettings members).toOption
  else none

def members (c : Configuration) : List (String × Json) := [
  ("license_header", c.licenseHeader), ("copyright_year", c.copyrightYear),
  ("codec_module", c.codecModule), ("module_case", c.moduleCase),
  ("add_comments", c.addComments), ("generate_properties", c.generateProperties)]

/-- All settings in one object: the known ones, then the custom ones. -/
def toJson (c : Configuration) : Except SettingsFault Json :=
  (settings c.custom).map fun custom => .object (Json.putAll c.members custom)

def warnings (c : Configuration) : Except SettingsFault (List String) := do
  let caseWarnings ← match c.moduleCase with
    | .text style =>
        pure (if style = "snake" ∨ style = "original" then []
          else ["Invalid module_case: " ++ style])
    | .array _ | .object _ => throw (.unhashable c.moduleCase.kindName)
    | other => pure ["Invalid module_case: " ++ other.plain]
  let codecWarnings ← match c.codecModule with
    | .text name => pure (if Name.isDotted name then [] else ["Invalid codec_module: " ++ name])
    | _ => throw .noSplit
  let yearWarnings := match c.copyrightYear with
    | .null | .int _ | .bool _ => []
    | other => ["Invalid copyright_year: " ++ other.plain]
  return caseWarnings ++ codecWarnings ++ yearWarnings

end Configuration

end OptionProtocol
