import OptionProtocol.FilePath
import OptionProtocol.Handler.ClassId
import OptionProtocol.Number.Reading
import OptionProtocol.Number.Shortest

/-! Values of options, and what numbers they stand for. -/

set_option autoImplicit false

namespace OptionProtocol

/-- A value. An object holds one row of values for each level of its class. -/
inductive Value where
  | absent
  | bool (value : Bool)
  | int (value : Int)
  | float (value : Binary64)
  | text (value : String)
  | path (value : FilePath)
  | list (items : List Value)
  | tuple (items : List Value)
  | object (id : ClassId) (rows : List (List Value))
  deriving Repr, Inhabited

/-- Why an operation on a value has no result. -/
inductive ValueFault where
  | wrongType
  | badValue
  | overflow
  | outOfRange
  | noSuchMember
  | notImplemented
  | undecodable
  deriving DecidableEq, Repr

namespace Value

/-- Whether the value counts as set: not absent, false, zero or empty. -/
def isTruthy : Value → Bool
  | .absent => false
  | .bool value => value
  | .int value => value != 0
  | .float value => !value.isZero
  | .text value => value != ""
  | .path _ => true
  | .list items => !items.isEmpty
  | .tuple items => !items.isEmpty
  | .object id _ => id != .tokenSequence

/-- The integer that a value stands for; the fraction of a number is cut off. -/
def toInt : Value → Except ValueFault Int
  | .bool value => .ok (if value then 1 else 0)
  | .int value => .ok value
  | .float .nan => .error .badValue
  | .float (.infinity _) => .error .overflow
  | .float (.finite negative mantissa exponent) =>
      let whole : Int := Binary64.wholePart mantissa exponent
      .ok (if negative then -whole else whole)
  | .text value =>
      match Number.readInt? value with
      | some n => .ok n
      | none => .error .badValue
  | _ => .error .wrongType

/-- The floating point number that a value stands for. -/
def toFloat : Value → Except ValueFault Binary64
  | .bool value => .ok (Binary64.ofRatio false (if value then 1 else 0) 1)
  | .int value =>
      match Binary64.ofInt? value with
      | some x => .ok x
      | none => .error .overflow
  | .float value => .ok value
  | .text value =>
      match Number.readFloat? value with
      | some x => .ok x
      | none => .error .badValue
  | _ => .error .wrongType

/-- The items of a value that has items; those of a text are its characters. -/
def items : Value → Except ValueFault (List Value)
  | .list items => .ok items
  | .tuple items => .ok items
  | .text value => .ok (value.toList.map fun c => .text (String.singleton c))
  | .object .tokenSequence _ => .ok []
  | _ => .error .wrongType

/-- The order of a number and a bound; nothing is known of what is no number. -/
def compareInt : Value → Int → Except ValueFault (Option Ordering)
  | .bool value, bound => .ok (some (compare (if value then 1 else 0) bound))
  | .int value, bound => .ok (some (compare value bound))
  | .float value, bound => .ok (value.compareInt bound)
  | _, _ => .error .wrongType

end Value

end OptionProtocol
