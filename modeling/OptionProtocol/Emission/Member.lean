import OptionProtocol.Definition.Basic
import OptionProtocol.Name.Sanitizer

/-! Members of generated classes: the names that each option takes up, and how options are
kept apart. -/

set_option autoImplicit false

namespace OptionProtocol.Member

def ofClass : List String := ["global_info", "list_options", "set_options", "get_options"]

/-- The names that an option of the given attribute takes up. -/
def ofAttribute (name : String) : List String := [
  name, "_" ++ name, Text.uppered name, "get_default_" ++ name, "get_" ++ name,
  "set_" ++ name, name ++ "_tip_text"]

/-- None of the names of the attribute is claimed. -/
def isFree (claimed : List String) (name : String) : Bool :=
  (ofAttribute name).all fun member => !claimed.contains member

/-- The first numbered attribute whose names are all free. Each claimed name can spoil at
most seven numbers. -/
def firstFree (claimed : List String) (base : String) : String :=
  let candidates := (List.range (7 * claimed.length + 1)).map (Sanitizer.numbered base)
  (candidates.find? (isFree claimed)).getD base

/-- Attributes for the properties in their order, none taking up a claimed name. -/
def assign (sanitizer : Sanitizer) (claimed : List String) : List String → List String
  | [] => []
  | property :: rest =>
      let (base, sanitizer) := sanitizer.sanitize property .snake "_"
      let chosen := firstFree claimed base
      chosen :: assign (sanitizer.addUsed chosen) (claimed ++ ofAttribute chosen) rest

end OptionProtocol.Member

namespace OptionProtocol

def Definition.attributes (d : Definition) : List String :=
  Member.assign Name.optionSanitizer Member.ofClass (d.options.map OptionDefinition.property)

end OptionProtocol
