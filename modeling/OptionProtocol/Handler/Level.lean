import OptionProtocol.Handler.Constraint
import OptionProtocol.Kind
import OptionProtocol.Text.LetterCase

/-! Levels: the options that one class of an option handler adds to those of its parent. -/

set_option autoImplicit false

namespace OptionProtocol

/-- An option as a handler keeps it: the field it is stored in, the flag that announces
it, the kind of its value or items, and the value it has when it is absent. -/
structure OptionSpec where
  field : String
  flag : String
  kind : Kind
  isArray : Bool := false
  default : Value
  base : Option ClassId := none
  constraint : Option Constraint := none
  tip : String := ""
  deriving Repr

def OptionSpec.constant (spec : OptionSpec) : String := Text.uppered spec.field

def OptionSpec.accepts (spec : OptionSpec) (value : Value) : Except ValueFault Bool :=
  match spec.constraint with
  | none => .ok true
  | some constraint => constraint.holds value

/-- The options of one class in their order. `describes` tells whether the class lists them,
`hasAccessors` whether each option can be read and assigned alone. -/
structure Level where
  options : List OptionSpec
  describes : Bool := true
  hasAccessors : Bool := true
  deriving Repr

def Level.defaults (level : Level) : List Value := level.options.map OptionSpec.default

end OptionProtocol
