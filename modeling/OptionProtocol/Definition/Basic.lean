import OptionProtocol.Definition.OptionType
import OptionProtocol.Json.Basic

/-! Class definitions: what a generated option handler is called, what it derives from, and
the options it has. -/

set_option autoImplicit false

namespace OptionProtocol

/-- One configurable parameter. The default and the constraint are texts of expressions. -/
structure OptionDefinition where
  property : String
  type : OptionType
  flag : String
  default : String
  constraint : Option String := none
  help : String := ""
  flagDerived : Bool := false
  deriving DecidableEq, Repr

/-- A class to generate. A root class handles all options itself; any other one hands what
it does not know on to its superclass. -/
structure Definition where
  name : String
  author : String
  organization : String
  package : String := ""
  namePrefix : String := ""
  nameSuffix : String := ""
  superclass : String := ""
  implement : List String := []
  imports : List String := []
  options : List OptionDefinition := []
  isRoot : Bool := false
  source : Option String := none
  deriving DecidableEq, Repr

namespace Definition

/-- The name of the class: prefix, name and suffix. -/
def className (d : Definition) : String := d.namePrefix ++ d.name ++ d.nameSuffix

def qualifiedName (d : Definition) : String :=
  if d.package = "" then d.className else d.package ++ "." ++ d.className

def option? (d : Definition) (property : String) : Option OptionDefinition :=
  d.options.find? fun option => option.property == property

def OptionDefinition.line (option : OptionDefinition) (number : Nat) : String :=
  Number.intText number ++ ". property: " ++ option.property ++ ", type: " ++
    option.type.text ++ ", flag: " ++ option.flag ++ ", default: " ++ option.default

def optionLines (number : Nat) : List OptionDefinition → List String
  | [] => []
  | option :: rest => OptionDefinition.line option number :: optionLines (number + 1) rest

def describe (d : Definition) : String :=
  "\n".intercalate ([
    "name: " ++ d.name,
    "package: " ++ d.package,
    "prefix: " ++ d.namePrefix,
    "suffix: " ++ d.nameSuffix,
    "superclass: " ++ d.superclass,
    "implement: " ++ Text.quotedList d.implement,
    "root: " ++ Json.boolText d.isRoot,
    "author: " ++ d.author,
    "organization: " ++ d.organization,
    "options:"] ++
    (if d.options.isEmpty then ["-none-"] else optionLines 1 d.options))

end Definition

end OptionProtocol
