import OptionProtocol.Expression.Literal
import OptionProtocol.Text.Basic

/-! The texts that literals stand for. -/

set_option autoImplicit false

namespace OptionProtocol.Expression

def octalNumber (digits : List Char) : Nat :=
  digits.foldl (fun n c => n * 8 + (c.toNat - 0x30)) 0

/-- The character with the number that the given count of hexadecimal digits make. -/
def numberedChar? (width : Nat) (s : List Char) : Option Char :=
  let number := hexNumber (s.take width)
  if beginsWithHex width s ∧ number.isValidChar then some (Char.ofNat number) else none

/-- What the characters behind a backslash stand for, and how many of them do. An escaped line end
stands for nothing. Names of characters have no meaning here. -/
def escape? : List Char → Option (List Char × Nat)
  | [] => none
  | c :: rest =>
      if isOctalDigit c then
        let digits := ((c :: rest).take 3).takeWhile isOctalDigit
        some ([Char.ofNat (octalNumber digits)], digits.length)
      else
        match c with
        | '\n' => some ([], 1)
        | '\\' => some (['\\'], 1)
        | '\'' => some (['\''], 1)
        | '"' => some (['"'], 1)
        | 'a' => some (['\x07'], 1)
        | 'b' => some (['\x08'], 1)
        | 'f' => some (['\x0c'], 1)
        | 'n' => some (['\n'], 1)
        | 'r' => some (['\r'], 1)
        | 't' => some (['\t'], 1)
        | 'v' => some (['\x0b'], 1)
        | 'x' => (numberedChar? 2 rest).map fun d => ([d], 3)
        | 'u' => (numberedChar? 4 rest).map fun d => ([d], 5)
        | 'U' => (numberedChar? 8 rest).map fun d => ([d], 9)
        | 'N' => none
        | _ => some (['\\', c], 1)

/-- The text behind the characters that an escape has taken. -/
def unescapedFrom : Nat → List Char → Option (List Char)
  | _, [] => some []
  | taken + 1, _ :: rest => unescapedFrom taken rest
  | 0, c :: rest =>
      if c = '\\' then
        (escape? rest).bind fun (chars, length) =>
          (unescapedFrom length rest).map fun more => chars ++ more
      else (unescapedFrom 0 rest).map fun more => c :: more

/-- The text that the body of a literal stands for. -/
def unescaped (body : List Char) : Option (List Char) := unescapedFrom 0 body

/-- The text that a literal stands for, if it stands for a text and has no fields in it. -/
def StringLiteral.text? (literal : StringLiteral) : Option (List Char) :=
  if literal.isBytes || literal.isFormatted then none
  else if literal.isRaw then some literal.body
  else unescaped literal.body

/-- The text that a source stands for in which there is a literal and nothing else. -/
def literalText? (source : List Char) : Option (List Char) :=
  if source.contains '\x00' then none
  else
    match stringStart? (Text.normalizeLineEnds source) with
    | none => none
    | some (literal, quote, inside) =>
        match stringBody quote inside with
        | some (body, []) => { literal with body }.text?
        | _ => none

end OptionProtocol.Expression
