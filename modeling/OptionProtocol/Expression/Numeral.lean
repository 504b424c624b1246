import OptionProtocol.Number.Reading

/-! Numerals of expressions: where they end, and whether they may end there. A numeral is
read from a text that begins with it; the rest of the text is the result. -/

set_option autoImplicit false

namespace OptionProtocol.Expression

/-- Characters that identifiers are made of, as far as the end of a word is concerned. -/
def isWordChar (c : Char) : Bool := c.isAlphanum || c == '_' || 0x80 ≤ c.toNat

/-- The text begins with the word and does not go on with it. -/
def beginsWithWord (word s : List Char) : Bool :=
  word.isPrefixOf s &&
    (match s.drop word.length with
     | [] => true
     | c :: _ => !isWordChar c)

/-- A numeral may end before this text: no word goes on with it, unless the word is one of
the few that can follow a number. -/
def mayEnd (s : List Char) : Bool :=
  match s with
  | [] => true
  | 'i' :: c :: _ => c = 'f' || c = 'n' || c = 's'
  | c :: _ =>
      !isWordChar c ||
        ["and", "else", "for", "or", "not"].any fun word => beginsWithWord word.toList s

def ending (s : List Char) : Option (List Char) := if mayEnd s then some s else none

/-- The digits that follow a first one, with single underscores between them. -/
def moreDigits (isDigit : Char → Bool) : List Char → Option (List Char)
  | [] => some []
  | '_' :: c :: rest => if isDigit c then moreDigits isDigit rest else none
  | ['_'] => none
  | c :: rest => if isDigit c then moreDigits isDigit rest else some (c :: rest)

/-- Digits of another base, the first of which may follow an underscore. -/
def radixDigits (isDigit : Char → Bool) (s : List Char) : Option (List Char) :=
  let s := match s with
    | '_' :: rest => rest
    | s => s
  match s with
  | c :: rest =>
      if isDigit c then
        (moreDigits isDigit rest).bind fun rest =>
          if (rest.head?.map Char.isDigit).getD false then none else ending rest
      else none
  | [] => none

def isHexDigit (c : Char) : Bool :=
  c.isDigit || ('a' ≤ c && c ≤ 'f') || ('A' ≤ c && c ≤ 'F')

def isOctalDigit (c : Char) : Bool := '0' ≤ c && c ≤ '7'

def isBinaryDigit (c : Char) : Bool := c = '0' || c = '1'

/-- The letter of an imaginary numeral, or the end of another one. -/
def imaginaryPart (s : List Char) : Option (List Char) :=
  match s with
  | c :: rest => if c = 'j' ∨ c = 'J' then ending rest else ending s
  | [] => some []

def exponentPart (s : List Char) : Option (List Char) :=
  match s with
  | mark :: rest =>
      if mark = 'e' ∨ mark = 'E' then
        match rest with
        | sign :: c :: more =>
            if sign = '+' ∨ sign = '-' then
              if c.isDigit then (moreDigits Char.isDigit more).bind imaginaryPart else none
            else if sign.isDigit then
              (moreDigits Char.isDigit (c :: more)).bind imaginaryPart
            else ending s
        | [c] => if c.isDigit then some [] else if c = '+' ∨ c = '-' then none else ending s
        | [] => ending s
      else imaginaryPart s
  | [] => some []

def fractionPart (s : List Char) : Option (List Char) :=
  match s with
  | c :: rest =>
      if c.isDigit then (moreDigits Char.isDigit rest).bind exponentPart else exponentPart s
  | [] => some []

/-- Zeros and underscores at the start of a numeral; an underscore stands before a digit. -/
def leadingZeros : List Char → Option (List Char)
  | '_' :: c :: rest =>
      if c = '0' then leadingZeros rest
      else if c.isDigit then some (c :: rest)
      else none
  | ['_'] => none
  | '0' :: rest => leadingZeros rest
  | s => some s

/-- What follows the first digits of a numeral, where the ends of a number with an exponent and of an
integer are read as given. -/
def behindDigits (exponent integer : List Char → Option (List Char)) (s : List Char) :
    Option (List Char) :=
  match s with
  | '.' :: fraction => fractionPart fraction
  | mark :: _ =>
      if mark = 'e' ∨ mark = 'E' then exponent s
      else if mark = 'j' ∨ mark = 'J' then imaginaryPart s
      else integer s
  | [] => integer []

/-- The end of an integer that begins with zeros, which no other digits may follow. -/
def zerosEnd (nonzero : Bool) (rest : List Char) : Option (List Char) :=
  if nonzero then none else ending rest

/-- What follows the zeros that a numeral begins with. -/
def behindZeros (s : List Char) : Option (List Char) :=
  let nonzero := (s.head?.map Char.isDigit).getD false
  (if nonzero then moreDigits Char.isDigit s else some s).bind
    (behindDigits exponentPart (zerosEnd nonzero))

/-- A numeral that begins with a zero. -/
def zeroNumeral (s : List Char) : Option (List Char) :=
  match s with
  | c :: rest =>
      if c = 'x' ∨ c = 'X' then radixDigits isHexDigit rest
      else if c = 'o' ∨ c = 'O' then radixDigits isOctalDigit rest
      else if c = 'b' ∨ c = 'B' then radixDigits isBinaryDigit rest
      else (leadingZeros s).bind behindZeros
  | [] => some []

/-- The end of an integer, which has a limited number of digits: a first one and those that stand in
the text before its rest. -/
def integerEnd (s rest : List Char) : Option (List Char) :=
  let digits := ((s.take (s.length - rest.length)).filter Char.isDigit).length + 1
  if digits ≤ Number.greatestDigitCount then some rest else none

/-- An exponent behind the digits of the text. One that takes nothing leaves an integer. -/
def decimalExponent (s rest : List Char) : Option (List Char) :=
  (exponentPart rest).bind fun after =>
    if after.length = rest.length then integerEnd s rest else some after

/-- A numeral that begins with another digit. -/
def decimalNumeral (s : List Char) : Option (List Char) :=
  (moreDigits Char.isDigit s).bind
    (behindDigits (decimalExponent s) fun rest => (ending rest).bind (integerEnd s))

def numeral (s : List Char) : Option (List Char) :=
  match s with
  | '0' :: rest => zeroNumeral rest
  | '.' :: rest => fractionPart rest
  | _ :: rest => decimalNumeral rest
  | [] => none

end OptionProtocol.Expression
