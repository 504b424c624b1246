import OptionProtocol.Number.Shortest
import OptionProtocol.Number.Reading
import OptionProtocol.Text.Quoted

/-! JSON values. Integers and floating point numbers are kept apart, and objects keep the
order of their members. -/

set_option autoImplicit false

namespace OptionProtocol

inductive Json where
  | null
  | bool (value : Bool)
  | int (value : Int)
  | float (value : Binary64)
  | text (value : String)
  | array (items : List Json)
  | object (members : List (String × Json))
  deriving Repr, Inhabited

namespace Json

def lookup? (members : List (String × Json)) (name : String) : Option Json :=
  members.lookup name

/-- Set a member: in place when the name is there, at the end when it is new. -/
def put {α : Type} (members : List (String × α)) (name : String) (value : α) :
    List (String × α) :=
  match members with
  | [] => [(name, value)]
  | (other, old) :: rest =>
      if other = name then (name, value) :: rest else (other, old) :: put rest name value

def putAll {α : Type} (members more : List (String × α)) : List (String × α) :=
  more.foldl (fun members entry => put members entry.1 entry.2) members

def kindName : Json → String
  | .null => "NoneType"
  | .bool _ => "bool"
  | .int _ => "int"
  | .float _ => "float"
  | .text _ => "str"
  | .array _ => "list"
  | .object _ => "dict"

/-- Whether the value counts as set: not null, false, zero or empty. -/
def isTruthy : Json → Bool
  | .null => false
  | .bool value => value
  | .int value => value != 0
  | .float value => !value.isZero
  | .text value => value != ""
  | .array items => !items.isEmpty
  | .object members => !members.isEmpty

def boolText (value : Bool) : String := if value then "True" else "False"

mutual

/-- The value as a literal: quoted texts, lists in brackets, objects in braces. -/
def literal : Json → String
  | .null => "None"
  | .bool value => boolText value
  | .int value => Number.intText value
  | .float value => value.text
  | .text value => Text.quoted value
  | .array items => "[" ++ ", ".intercalate (itemLiterals items) ++ "]"
  | .object members => "\x7b" ++ ", ".intercalate (memberLiterals members) ++ "\x7d"

def itemLiterals : List Json → List String
  | [] => []
  | item :: rest => literal item :: itemLiterals rest

def memberLiterals : List (String × Json) → List String
  | [] => []
  | (name, value) :: rest => (Text.quoted name ++ ": " ++ literal value) :: memberLiterals rest

end

/-- The value as plain text: a text is itself, everything else its literal. -/
def plain : Json → String
  | .text value => value
  | value => value.literal

end Json

end OptionProtocol
