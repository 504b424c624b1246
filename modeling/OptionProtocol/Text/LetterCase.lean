import OptionProtocol.Text.LetterCase.Table

/-! Upper, lower and title case of texts of all scripts. -/

set_option autoImplicit false

namespace OptionProtocol.Text

open LetterCase

/-- The image of a code point, when it is one of the letters of the run. -/
def LetterCase.Run.map? (run : Run) (n : Nat) : Option Nat :=
  if run.first ≤ n ∧ n ≤ run.last ∧ (n - run.first) % run.stride = 0 then
    some (n + run.offset).toNat
  else none

def LetterCase.lookup? (expansions : Expansions) (runs : List Run) (c : Char) :
    Option (List Char) :=
  match expansions.lookup c.toNat with
  | some image => some (image.map Char.ofNat)
  | none => (runs.findSome? (·.map? c.toNat)).map fun n => [Char.ofNat n]

def lowerChar (c : Char) : List Char :=
  if c.toNat < 0x80 then [c.toLower] else (lookup? lowerExpansions lowerRuns c).getD [c]

def upperChar (c : Char) : List Char :=
  if c.toNat < 0x80 then [c.toUpper] else (lookup? upperExpansions upperRuns c).getD [c]

def titleChar (c : Char) : List Char :=
  if c.toNat < 0x80 then [c.toUpper] else (lookup? titleExpansions titleRuns c).getD (upperChar c)

/-- The first character that is not skipped belongs to a cased letter. -/
def nextIsCased (s : List Char) : Bool :=
  match s.dropWhile caseIgnorableRanges.contains with
  | [] => false
  | c :: _ => casedRanges.contains c

/-- Lower case of a text that follows `before`, which is given backwards. A capital sigma
at the end of a word has a form of its own. -/
def lowerAfter (before : List Char) : List Char → List Char
  | [] => []
  | c :: rest =>
      (if c = 'Σ' then (if nextIsCased before && !nextIsCased rest then ['ς'] else ['σ'])
       else lowerChar c) ++ lowerAfter (c :: before) rest

def lower (s : List Char) : List Char := lowerAfter [] s

def upper (s : List Char) : List Char := s.flatMap upperChar

/-- Title case for the first character, lower case for the others. -/
def capitalize : List Char → List Char
  | [] => []
  | c :: rest => titleChar c ++ lowerAfter [c] rest

def lowered (s : String) : String := String.ofList (lower s.toList)

def uppered (s : String) : String := String.ofList (upper s.toList)

end OptionProtocol.Text
