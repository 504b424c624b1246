import OptionProtocol.Number.Binary64
import OptionProtocol.Text.Basic
import OptionProtocol.Text.Digit

/-! Numbers as users write them: surrounded by blanks, with a sign, digits of any script,
and underscores between digits. -/

set_option autoImplicit false

namespace OptionProtocol.Number

open OptionProtocol.Text

/-- Integers of more digits are neither read nor written. -/
def greatestDigitCount : Nat := 4300

/-- Digits of all scripts become the ten common ones; nothing else changes. -/
def commonDigit (c : Char) : Char :=
  match digitValue? c with
  | some value => Char.ofNat (0x30 + value)
  | none => c

/-- The characters of a number without the blanks around it, in common digits. -/
def prepared (s : String) : List Char :=
  (trim isNumberPadding s.toList).map commonDigit

/-- Digits with single underscores between them, without the underscores. -/
def groupedDigits? : List Char → Option (List Char)
  | [] => none
  | [c] => if c.isDigit then some [c] else none
  | c :: '_' :: rest => if c.isDigit then (groupedDigits? rest).map (c :: ·) else none
  | c :: rest => if c.isDigit then (groupedDigits? rest).map (c :: ·) else none

def ofDigits (digits : List Char) : Nat :=
  digits.foldl (fun n c => n * 10 + (c.toNat - 0x30)) 0

/-- A sign, if there is one, and the rest. -/
def signed : List Char → Bool × List Char
  | '-' :: rest => (true, rest)
  | '+' :: rest => (false, rest)
  | rest => (false, rest)

def readInt? (s : String) : Option Int :=
  let (negative, rest) := signed (prepared s)
  match groupedDigits? rest with
  | none => none
  | some digits =>
      if greatestDigitCount < digits.length then none
      else some (if negative then -(ofDigits digits : Int) else ofDigits digits)

/-- Underscores go when a digit stands on both sides; elsewhere they are a fault. -/
def withoutUnderscores? (previous : Char) : List Char → Option (List Char)
  | [] => some []
  | '_' :: next :: rest =>
      if previous.isDigit && next.isDigit then
        (withoutUnderscores? next rest).map (next :: ·)
      else none
  | ['_'] => none
  | c :: rest => (withoutUnderscores? c rest).map (c :: ·)

def spanDigits (s : List Char) : List Char × List Char :=
  (s.takeWhile Char.isDigit, s.dropWhile Char.isDigit)

/-- A power of ten after a mark, or nothing at all. -/
def readPower? : List Char → Option Int
  | [] => some 0
  | mark :: rest =>
      if mark = 'e' ∨ mark = 'E' then
        let (negative, rest) := signed rest
        match spanDigits rest with
        | (digits, []) =>
            if digits.isEmpty then none
            else some (if negative then -(ofDigits digits : Int) else ofDigits digits)
        | _ => none
      else none

/-- An unsigned number with an optional fraction and power. -/
def readDecimal? (negative : Bool) (s : List Char) : Option Binary64 :=
  let (whole, rest) := spanDigits s
  let (fraction, rest) := match rest with
    | '.' :: rest => spanDigits rest
    | rest => ([], rest)
  if whole.isEmpty && fraction.isEmpty then none
  else (readPower? rest).map fun power =>
    Binary64.ofDecimal negative (ofDigits (whole ++ fraction)) (power - fraction.length)

def readFloat? (s : String) : Option Binary64 :=
  match withoutUnderscores? ' ' (prepared s) with
  | none => none
  | some cs =>
      let (negative, rest) := signed cs
      let name := String.ofList (rest.map Char.toLower)
      if name = "inf" ∨ name = "infinity" then some (.infinity negative)
      else if name = "nan" then some .nan
      else readDecimal? negative rest

def intText (n : Int) : String :=
  String.ofList ((if n < 0 then ['-'] else []) ++ Nat.toDigits 10 n.natAbs)

/-- The integer has few enough digits to be written. -/
def isWritable (n : Int) : Bool := (Nat.toDigits 10 n.natAbs).length ≤ greatestDigitCount

end OptionProtocol.Number
