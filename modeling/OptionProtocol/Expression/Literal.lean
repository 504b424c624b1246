import OptionProtocol.Expression.Lexer

/-! String literals from the inside: escapes, and the parts of formatted literals. -/

set_option autoImplicit false

namespace OptionProtocol.Expression

def hexNumber (digits : List Char) : Nat :=
  digits.foldl (fun n c =>
    n * 16 + (if c.isDigit then c.toNat - 0x30 else c.toLower.toNat - 0x57)) 0

def beginsWithHex (width : Nat) (s : List Char) : Bool :=
  width ≤ s.length && (s.take width).all isHexDigit

/-- Letters, digits, spaces and hyphens. -/
def isCharacterName (name : List Char) : Bool :=
  !name.isEmpty && name.all fun c => c.isAlphanum || c == ' ' || c == '-'

/-- Every escape of a text literal is complete. Escapes without a meaning are allowed. -/
def textEscapesValid : List Char → Bool
  | [] => true
  | ['\\'] => true
  | '\\' :: c :: rest =>
      (match c with
       | 'x' => beginsWithHex 2 rest
       | 'u' => beginsWithHex 4 rest
       | 'U' => beginsWithHex 8 rest && hexNumber (rest.take 8) ≤ 0x10FFFF
       | 'N' =>
           match rest with
           | '\x7b' :: name =>
               isCharacterName (name.takeWhile (· ≠ '\x7d')) &&
                 (name.dropWhile (· ≠ '\x7d')).head? == some '\x7d'
           | _ => false
       | _ => true) && textEscapesValid rest
  | _ :: rest => textEscapesValid rest

def bytesEscapesValid : List Char → Bool
  | [] => true
  | ['\\'] => true
  | '\\' :: c :: rest => (c ≠ 'x' || beginsWithHex 2 rest) && bytesEscapesValid rest
  | _ :: rest => bytesEscapesValid rest

/-- The literal text before the next replacement field: the text, whether a doubled brace
ended it, and what follows. A doubled brace only counts outside format specifications. -/
def literalPart (raw : Bool) (level : Nat) : Nat → List Char →
    Option (List Char × Bool × List Char)
  | _, [] => some ([], false, [])
  | 0, _ => none
  | fuel + 1, c :: rest =>
      let step (taken rest : List Char) :=
        (literalPart raw level fuel rest).map fun (text, doubled, rest) =>
          (taken ++ text, doubled, rest)
      let brace (before : List Char) (c : Char) (rest : List Char) :=
        if level = 0 then
          if rest.head? = some c then some (before ++ [c], true, rest.drop 1)
          else if c = '\x7d' then none
          else some (before, false, c :: rest)
        else some (before, false, c :: rest)
      if c = '\\' ∧ !raw then
        match rest with
        | 'N' :: '\x7b' :: more =>
            let name := more.takeWhile (· ≠ '\x7d')
            step ('\\' :: 'N' :: '\x7b' :: (more.take (name.length + 1)))
              (more.drop (name.length + 1))
        | 'N' :: _ => none
        | next :: more =>
            if next = '\x7b' ∨ next = '\x7d' then brace ['\\'] next more
            else step ['\\', next] more
        | [] => some (['\\'], false, [])
      else if c = '\x7b' ∨ c = '\x7d' then brace [] c rest
      else step [c] rest

/-- A string inside a replacement field: its quote, and whether three of them close it. -/
abbrev OpenString := Option (Char × Bool)

/-- The expression of a replacement field, and what follows from the character that ends it. -/
def fieldExpression (inString : OpenString) (brackets : List Char) : Nat → List Char →
    Option (List Char × List Char)
  | _, [] => none
  | 0, _ => none
  | fuel + 1, c :: rest =>
      let step (inString : OpenString) (brackets taken rest : List Char) :=
        (fieldExpression inString brackets fuel rest).map fun (text, rest) =>
          (taken ++ text, rest)
      let tripled := rest.take 2 = [c, c]
      if c = '\\' then none
      else
        match inString with
        | some (quote, triple) =>
            if c ≠ quote then step inString brackets [c] rest
            else if !triple then step none brackets [c] rest
            else if tripled then step none brackets [c, c, c] (rest.drop 2)
            else step inString brackets [c] rest
        | none =>
            if isQuote c then
              if tripled then step (some (c, true)) brackets [c, c, c] (rest.drop 2)
              else step (some (c, false)) brackets [c] rest
            else if c = '#' then none
            else if brackets.isEmpty && ['!', ':', '\x7d', '=', '<', '>'].contains c then
              if ['!', '=', '<', '>'].contains c && rest.head? = some '=' then
                step none brackets [c, '='] (rest.drop 1)
              else if c = '<' ∨ c = '>' then step none brackets [c] rest
              else some ([], c :: rest)
            else
              match bracketsAfter brackets (String.singleton c) with
              | some brackets => step none brackets [c] rest
              | none => none

def isFieldBlank (c : Char) : Bool := c = ' ' || c = '\t' || c = '\n' || c = '\x0c'

/-- A conversion after an exclamation mark, if there is one. -/
def skipConversion : List Char → Option (List Char)
  | '!' :: c :: rest => if c = 's' ∨ c = 'r' ∨ c = 'a' then some rest else none
  | ['!'] => none
  | s => some s

/-- An equals sign with the blanks behind it, if there is one. -/
def skipEquals : List Char → List Char
  | '=' :: rest => rest.dropWhile fun c => isFieldBlank c || c = '\r' || c = '\x0b'
  | s => s

mutual

/-- The expressions of the replacement fields of a formatted literal, and what follows its
end: nothing outside format specifications, a closing brace inside. -/
def formattedParts (raw : Bool) (level : Nat) : Nat → List Char →
    Option (List (List Char) × List Char)
  | 0, _ => none
  | fuel + 1, s => do
      let (text, doubled, rest) ← literalPart raw level (s.length + 1) s
      if !raw && !textEscapesValid text then none
      else if doubled then formattedParts raw level fuel rest
      else
        match rest with
        | '\x7b' :: inside =>
            let (fields, rest) ← replacementField raw level fuel inside
            let (more, rest) ← formattedParts raw level fuel rest
            return (fields ++ more, rest)
        | rest => return ([], rest)

/-- The expressions of one replacement field, whose opening brace has been read. Fields can
stand in the format specification of a field, but no deeper. -/
def replacementField (raw : Bool) (level : Nat) : Nat → List Char →
    Option (List (List Char) × List Char)
  | 0, _ => none
  | fuel + 1, s =>
      if 2 ≤ level then none
      else do
        let (expression, rest) ← fieldExpression none [] (s.length + 1) s
        if expression.all isFieldBlank then none
        else
          let rest ← skipConversion (skipEquals rest)
          match rest with
          | '\x7d' :: rest => return ([expression], rest)
          | ':' :: spec =>
              if spec.isEmpty then none
              else
                let (fields, rest) ← formattedParts raw (level + 1) fuel spec
                match rest with
                | '\x7d' :: rest => return (expression :: fields, rest)
                | _ => none
          | _ => none

end

/-- The expressions inside a literal; none if the literal is malformed. -/
def StringLiteral.expressions? (literal : StringLiteral) : Option (List (List Char)) :=
  if literal.isFormatted then
    match formattedParts literal.isRaw 0 (2 * literal.body.length + 2) literal.body with
    | some (expressions, []) => some expressions
    | _ => none
  else if literal.isBytes then
    if literal.body.all (fun c => c.toNat < 0x80) &&
        (literal.isRaw || bytesEscapesValid literal.body) then some []
    else none
  else if literal.isRaw || textEscapesValid literal.body then some []
  else none

/-- No text literal stands beside a bytes literal. -/
def literalsAgree : List Lexeme → Bool
  | .string a :: .string b :: rest =>
      a.isBytes == b.isBytes && literalsAgree (.string b :: rest)
  | _ :: rest => literalsAgree rest
  | [] => true

end OptionProtocol.Expression
