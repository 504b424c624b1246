import OptionProtocol.Definition.OptionType

/-! Import statements of generated modules. -/

set_option autoImplicit false

namespace OptionProtocol.Import

def codec (module : String) : String :=
  let name := Name.last module
  let bound := if name = "codec" then name else name ++ " as codec"
  match Name.path? module with
  | some path => "from " ++ path ++ " import " ++ bound
  | none => "import " ++ bound

/-- The statement that makes a class known by its last name; a bare name needs none. -/
def ofClass (dotted : String) : Option String :=
  (Name.path? dotted).map fun path => "from " ++ path ++ " import " ++ Name.last dotted

/-- The statement of an entry that is one already or names a module. -/
def extra (entry : String) : String :=
  if entry.startsWith "import " || entry.startsWith "from " then entry else "import " ++ entry

/-- Statements that begin with `import` come first, in the order of their texts. -/
def before (a b : String) : Bool :=
  let isPlain (s : String) := s.startsWith "import "
  if isPlain a == isPlain b then decide (a ≤ b) else isPlain a

/-- The statements in their order, each once, without empty ones. -/
def sort (statements : List String) : List String :=
  ((statements.filter (· ≠ "")).eraseDups).mergeSort before

/-- The annotation for an element. -/
def elementAnnotation : ElementType → String
  | .object className => className
  | .scalar kind =>
      match kind with
      | .integer | .long => "int"
      | .float | .double => "float"
      | .text => "str"
      | .path => "pathlib.Path"
      | .flag => "bool"
      | .object => "object"

def annotation (type : OptionType) : String :=
  let element := elementAnnotation type.element
  if type.isArray then "list[" ++ element ++ "]" else element

def required? (type : OptionType) : Option String :=
  match type.element with
  | .object className => some ("import " ++ Name.path className)
  | .scalar .path => some "import pathlib"
  | .scalar _ => none

end OptionProtocol.Import
