/-! The kinds of values that options carry. -/

set_option autoImplicit false

namespace OptionProtocol

/-- A kind of value. Integers and longs are read alike, and so are floats and doubles. -/
inductive Kind where
  | integer
  | long
  | float
  | double
  | text
  | path
  | flag
  | object
  deriving DecidableEq, Repr

namespace Kind

def all : List Kind := [.integer, .long, .float, .double, .text, .path, .flag, .object]

def name : Kind → String
  | .integer => "integer"
  | .long => "long"
  | .float => "float"
  | .double => "double"
  | .text => "text"
  | .path => "path"
  | .flag => "flag"
  | .object => "object"

def constant : Kind → String
  | .integer => "INTEGER"
  | .long => "LONG"
  | .float => "FLOAT"
  | .double => "DOUBLE"
  | .text => "TEXT"
  | .path => "PATH"
  | .flag => "FLAG"
  | .object => "OBJECT"

def ofName? (name : String) : Option Kind := all.find? fun kind => kind.name == name

theorem mem_all (kind : Kind) : kind ∈ all := by cases kind <;> decide

end Kind

end OptionProtocol
