import OptionProtocol.Number.Binary64

/-! The text of a floating point number: the fewest digits that read back, nearest to the
number among those; positional from `1e-4` up to below `1e16`. -/

set_option autoImplicit false

namespace OptionProtocol.Binary64

/-- A positive number as a fraction, with the bounds of what rounds to it. The bounds
belong to the interval exactly when the mantissa is even. -/
structure Neighbourhood where
  num : Nat
  low : Nat
  high : Nat
  den : Nat
  closed : Bool

def neighbourhood (mantissa : Nat) (exponent : Int) : Neighbourhood :=
  let shift := exponent - 2
  let up := Nat.pow 2 shift.toNat
  -- Below a power of two the numbers lie twice as dense.
  let below := if mantissa = fullMantissa ∧ leastExponent < exponent then 1 else 2
  { num := 4 * mantissa * up
    low := (4 * mantissa - below) * up
    high := (4 * mantissa + 2) * up
    den := Nat.pow 2 (-shift).toNat
    closed := mantissa % 2 = 0 }

/-- `digits * 10 ^ power` rounds to the number. -/
def Neighbourhood.admits (near : Neighbourhood) (digits : Nat) (power : Int) : Bool :=
  let value := digits * Nat.pow 10 power.toNat * near.den
  let scale := Nat.pow 10 (-power).toNat
  if near.closed then near.low * scale ≤ value && value ≤ near.high * scale
  else near.low * scale < value && value < near.high * scale

/-- The exponent of the greatest power of ten that is at most the number. -/
def Neighbourhood.decimalExponent (near : Neighbourhood) : Int :=
  if near.den ≤ near.num then (digitCount (near.num / near.den) : Int) - 1
  else
    match (List.range 400).find? fun k => near.den ≤ near.num * Nat.pow 10 (k + 1) with
    | some k => Int.negSucc k
    | none => -400

def Neighbourhood.choose? (near : Neighbourhood) (power : Int) : Option Nat :=
  let num := near.num * Nat.pow 10 (-power).toNat
  let den := near.den * Nat.pow 10 power.toNat
  let below := num / den
  let twice := 2 * (num % den)
  let nearest := if twice < den ∨ (twice = den ∧ below % 2 = 0) then below else below + 1
  let other := if nearest = below then below + 1 else below
  if near.admits nearest power then some nearest
  else if near.admits other power then some other
  else none

/-- The shortest decimal that reads back: its digits and the power of ten of the last. -/
def shortest (mantissa : Nat) (exponent : Int) : Nat × Int :=
  let near := neighbourhood mantissa exponent
  let top := near.decimalExponent
  let found := (List.range 17).findSome? fun (n : Nat) =>
    let power := top - n
    (near.choose? power).map fun digits => (digits, power)
  found.getD (0, 0)

/-- Digits without trailing zeros, and the exponent of the first of them. -/
def scientific (decimal : Nat × Int) : List Char × Int :=
  let digits := Nat.toDigits 10 decimal.1
  let top := (digits.length : Int) - 1 + decimal.2
  ((digits.reverse.dropWhile (· == '0')).reverse, top)

def zeros (n : Nat) : List Char := List.replicate n '0'

/-- Digits with a point and a zero where the number is whole. -/
def positional (digits : List Char) (top : Int) : List Char :=
  if top < 0 then '0' :: '.' :: (zeros (-top - 1).toNat ++ digits)
  else
    let whole := top.toNat + 1
    if digits.length ≤ whole then digits ++ zeros (whole - digits.length) ++ ['.', '0']
    else digits.take whole ++ '.' :: digits.drop whole

/-- The first digit, a point before the others, and an exponent of two digits or more. -/
def exponential (digits : List Char) (top : Int) : List Char :=
  let mantissa := match digits with
    | first :: second :: more => first :: '.' :: second :: more
    | few => few
  let power := Nat.toDigits 10 top.natAbs
  let power := if power.length < 2 then '0' :: power else power
  mantissa ++ 'e' :: (if top < 0 then '-' else '+') :: power

def text : Binary64 → String
  | .nan => "nan"
  | .infinity negative => if negative then "-inf" else "inf"
  | .finite negative mantissa exponent =>
      let magnitude :=
        if mantissa = 0 then ['0', '.', '0']
        else
          let (digits, top) := scientific (shortest mantissa exponent)
          if -4 ≤ top ∧ top < 16 then positional digits top else exponential digits top
      String.ofList (if negative then '-' :: magnitude else magnitude)

end OptionProtocol.Binary64
