import OptionProtocol.Handler.Value

/-! Constraints: what a value has to satisfy before it is assigned to an option. -/

set_option autoImplicit false

namespace OptionProtocol

inductive Constraint where
  | above (bound : Int)
  | lengthAtMost (bound : Nat)
  | within (low high : Int)
  | eachAbove (bound : Int)
  | notText (text : String)
  deriving DecidableEq, Repr

namespace Constraint

def isAbove (bound : Int) (value : Value) : Except ValueFault Bool :=
  (value.compareInt bound).map (· == some .gt)

/-- All items are above the bound; the first that is not settles it. -/
def allAbove (bound : Int) : List Value → Except ValueFault Bool
  | [] => .ok true
  | item :: rest =>
      match isAbove bound item with
      | .ok true => allAbove bound rest
      | other => other

/-- Whether the value satisfies the constraint; values of other types may have no answer. -/
def holds (constraint : Constraint) (value : Value) : Except ValueFault Bool :=
  match constraint with
  | .above bound => isAbove bound value
  | .lengthAtMost bound => value.items.map fun items => items.length ≤ bound
  | .within low high =>
      match value.compareInt low with
      | .error fault => .error fault
      | .ok least =>
          if least = some .gt ∨ least = some .eq then
            (value.compareInt high).map (· == some .lt)
          else .ok false
  | .eachAbove bound =>
      match value.items with
      | .ok items => allAbove bound items
      | .error fault => .error fault
  | .notText text =>
      match value with
      | .text value => .ok (value != text)
      | _ => .ok true

end Constraint

end OptionProtocol
