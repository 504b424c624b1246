/-! Floating point numbers of 53 bits, with exact rounding to the nearest number and ties
to the even one. -/

set_option autoImplicit false

namespace OptionProtocol

/-- A number with a sign, a mantissa of at most 53 bits and a power of two, or one of the
two kinds of values beside the numbers. -/
inductive Binary64 where
  | nan
  | infinity (negative : Bool)
  | finite (negative : Bool) (mantissa : Nat) (exponent : Int)
  deriving DecidableEq, Repr, Inhabited

namespace Binary64

def leastExponent : Int := -1074

def greatestExponent : Int := 971

/-- The least mantissa of a number that uses all 53 bits. -/
def fullMantissa : Nat := Nat.pow 2 52

def zero (negative : Bool) : Binary64 := .finite negative 0 leastExponent

/-- The quotient, rounded to the nearest integer and to the even one of two nearest. -/
def divideToEven (num den : Nat) : Nat :=
  let quotient := num / den
  let double := 2 * (num % den)
  if double < den ∨ (double = den ∧ quotient % 2 = 0) then quotient else quotient + 1

/-- The exponent of the greatest power of two that is at most `num / den`. -/
def floorLog2 (num den : Nat) : Int :=
  let guess : Int := (num.log2 : Int) - den.log2
  let reached :=
    if 0 ≤ guess then den * Nat.pow 2 guess.toNat ≤ num else den ≤ num * Nat.pow 2 (-guess).toNat
  if reached then guess else guess - 1

/-- The number nearest to `num / den`. -/
def ofRatio (negative : Bool) (num den : Nat) : Binary64 :=
  if num = 0 ∨ den = 0 then zero negative
  else
    let exponent := max (floorLog2 num den - 52) leastExponent
    let mantissa :=
      if 0 ≤ exponent then divideToEven num (den * Nat.pow 2 exponent.toNat)
      else divideToEven (num * Nat.pow 2 (-exponent).toNat) den
    let carried := mantissa = 2 * fullMantissa
    let exponent := if carried then exponent + 1 else exponent
    let mantissa := if carried then fullMantissa else mantissa
    if greatestExponent < exponent then .infinity negative
    else .finite negative mantissa exponent

def digitCount (n : Nat) : Nat := (Nat.toDigits 10 n).length

/-- The number nearest to `digits * 10 ^ power`. Beyond 400 places no number is left to
choose from, so the power is not computed there. -/
def ofDecimal (negative : Bool) (digits : Nat) (power : Int) : Binary64 :=
  let places := (digitCount digits : Int) + power
  if digits = 0 then zero negative
  else if 400 < places then .infinity negative
  else if places < -400 then zero negative
  else if 0 ≤ power then ofRatio negative (digits * Nat.pow 10 power.toNat) 1
  else ofRatio negative digits (Nat.pow 10 (-power).toNat)

def ofInt? (n : Int) : Option Binary64 :=
  match ofRatio (n < 0) n.natAbs 1 with
  | .finite negative mantissa exponent =>
      some (if n = 0 then zero false else .finite negative mantissa exponent)
  | _ => none

def isZero : Binary64 → Bool
  | .finite _ mantissa _ => mantissa == 0
  | _ => false

def wholePart (mantissa : Nat) (exponent : Int) : Nat :=
  if 0 ≤ exponent then mantissa * Nat.pow 2 exponent.toNat else mantissa / Nat.pow 2 (-exponent).toNat

def hasFraction (mantissa : Nat) (exponent : Int) : Bool :=
  exponent < 0 && mantissa % Nat.pow 2 (-exponent).toNat != 0

/-- The order of a number and an integer; nothing is known of what is no number. -/
def compareInt (x : Binary64) (n : Int) : Option Ordering :=
  match x with
  | .nan => none
  | .infinity negative => some (if negative then .lt else .gt)
  | .finite negative mantissa exponent =>
      let whole : Int := wholePart mantissa exponent
      let fraction := hasFraction mantissa exponent
      if negative then
        some (if -whole = n then (if fraction then .lt else .eq) else compare (-whole) n)
      else some (if whole = n then (if fraction then .gt else .eq) else compare whole n)

end Binary64

end OptionProtocol
