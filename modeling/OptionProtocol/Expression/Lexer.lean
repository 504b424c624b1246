import OptionProtocol.Expression.Lexeme
import OptionProtocol.Expression.Numeral
import OptionProtocol.Text.Identifier

/-! Taking expressions apart into lexemes. Line ends inside brackets, comments and blanks
leave no lexeme. -/

set_option autoImplicit false

namespace OptionProtocol.Expression

/-- The characters of a literal in quotes of one character, up to the closing one. A
backslash takes the next character with it. -/
def shortBody (quote : Char) : List Char → Option (List Char × List Char)
  | [] => none
  | '\\' :: c :: rest => (shortBody quote rest).map fun (body, rest) => ('\\' :: c :: body, rest)
  | c :: rest =>
      if c = quote then some ([], rest)
      else if c = '\n' then none
      else (shortBody quote rest).map fun (body, rest) => (c :: body, rest)

/-- The characters of a literal in quotes of three characters, up to the closing ones. -/
def longBody (quote : Char) : List Char → Option (List Char × List Char)
  | [] => none
  | '\\' :: c :: rest => (longBody quote rest).map fun (body, rest) => ('\\' :: c :: body, rest)
  | c :: rest =>
      if c = quote then
        match rest with
        | a :: b :: after =>
            if a = quote ∧ b = quote then some ([], after)
            else (longBody quote rest).map fun (body, rest) => (c :: body, rest)
        | _ => none
      else (longBody quote rest).map fun (body, rest) => (c :: body, rest)

def isQuote (c : Char) : Bool := c = '\'' || c = '"'

/-- The body of a literal that begins after its first quote. -/
def stringBody (quote : Char) (s : List Char) : Option (List Char × List Char) :=
  match s with
  | a :: b :: rest =>
      if a = quote ∧ b = quote then longBody quote rest
      else if a = quote then some ([], b :: rest)
      else shortBody quote s
  | _ => shortBody quote s

/-- What the letters before a quote say; none for letters that are no such letters. -/
def literalOfLetters? (letters : List Char) : Option StringLiteral :=
  match letters.map Char.toLower with
  | [] => some { body := [] }
  | ['u'] => some { body := [] }
  | ['r'] => some { isRaw := true, body := [] }
  | ['b'] => some { isBytes := true, body := [] }
  | ['f'] => some { isFormatted := true, body := [] }
  | ['b', 'r'] => some { isBytes := true, isRaw := true, body := [] }
  | ['r', 'b'] => some { isBytes := true, isRaw := true, body := [] }
  | ['f', 'r'] => some { isFormatted := true, isRaw := true, body := [] }
  | ['r', 'f'] => some { isFormatted := true, isRaw := true, body := [] }
  | _ => none

def stringStart? (s : List Char) : Option (StringLiteral × Char × List Char) :=
  let letters := (s.take 3).takeWhile fun c => !isQuote c
  match s.drop letters.length with
  | quote :: rest =>
      if isQuote quote then (literalOfLetters? letters).map fun literal => (literal, quote, rest)
      else none
  | [] => none

def closes (opening closing : Char) : Bool :=
  (opening = '(' && closing = ')') || (opening = '[' && closing = ']') ||
    (opening = '\x7b' && closing = '\x7d')

/-- Brackets may be nested this deep. -/
def greatestDepth : Nat := 200

/-- The brackets open after an operator; none if it closes the wrong one. -/
def bracketsAfter (brackets : List Char) (symbol : String) : Option (List Char) :=
  match symbol.toList with
  | [c] =>
      if c = '(' ∨ c = '[' ∨ c = '\x7b' then
        if brackets.length < greatestDepth then some (c :: brackets) else none
      else if c = ')' ∨ c = ']' ∨ c = '\x7d' then
        match brackets with
        | opening :: outer => if closes opening c then some outer else none
        | [] => none
      else some brackets
  | _ => some brackets

def wordLexeme (word : List Char) : Option Lexeme :=
  let text := String.ofList word
  if keywords.contains text then some (.keyword text)
  else if Text.isIdentifier word then some .name
  else none

/-- The text from its first line with more than blanks and comments in it; none if that line is
indented. A form feed takes indentation back, but not from the lines that a backslash has joined. -/
def firstLine (comment joined indented : Bool) : List Char → Option (List Char)
  | [] => some []
  | '\\' :: '\n' :: next :: rest =>
      if comment then firstLine comment joined indented ('\n' :: next :: rest)
      else firstLine comment (joined || indented) indented (next :: rest)
  | c :: rest =>
      if c = '\n' then firstLine false false false rest
      else if comment then firstLine comment joined indented rest
      else if c = '#' then firstLine true joined indented rest
      else if c = ' ' ∨ c = '\t' then firstLine comment joined true rest
      else if c = '\x0c' then firstLine comment joined false rest
      else if joined ∨ indented ∨ c = '\\' then none
      else some (c :: rest)

def readString (literal : StringLiteral) (quote : Char) (s : List Char) :
    Option (Lexeme × List Char) :=
  (stringBody quote s).map fun (body, rest) => (.string { literal with body }, rest)

def beginsNumeral : List Char → Bool
  | c :: rest => c.isDigit || (c = '.' && (rest.head?.map Char.isDigit).getD false)
  | [] => false

def beginsWord : List Char → Bool
  | c :: _ => isWordChar c
  | [] => false

def readWord (s : List Char) : Option (Lexeme × List Char) :=
  let word := s.takeWhile isWordChar
  (wordLexeme word).map fun lexeme => (lexeme, s.drop word.length)

def readOperator (s : List Char) : Option (Lexeme × List Char) :=
  (operators.find? fun symbol => symbol.toList.isPrefixOf s).map fun symbol =>
    (.operator symbol, s.drop symbol.length)

/-- The lexeme that a text begins with, and what follows it. -/
def readLexeme (s : List Char) : Option (Lexeme × List Char) :=
  match stringStart? s with
  | some (literal, quote, inside) => readString literal quote inside
  | none =>
      if beginsNumeral s then (numeral s).map fun rest => (.number, rest)
      else if beginsWord s then readWord s
      else readOperator s

def Lexeme.bracketsAfter (brackets : List Char) : Lexeme → Option (List Char)
  | .operator symbol => Expression.bracketsAfter brackets symbol
  | _ => some brackets

/-- One step through a text inside the given brackets: the lexeme, if there is one, the brackets
that are open behind it, and the text that follows. -/
def lexStep (brackets : List Char) :
    List Char → Option (Option Lexeme × List Char × List Char)
  | [] => none
  | c :: rest =>
      if c = ' ' ∨ c = '\t' ∨ c = '\x0c' then some (none, brackets, rest)
      else if c = '#' then some (none, brackets, rest.dropWhile (· ≠ '\n'))
      else if c = '\n' then
        some (if brackets.isEmpty then some .newline else none, brackets, rest)
      else if c = '\\' then
        match rest with
        | '\n' :: next :: rest => some (none, brackets, next :: rest)
        | _ => none
      else do
        let (lexeme, rest) ← readLexeme (c :: rest)
        let brackets ← lexeme.bracketsAfter brackets
        return (some lexeme, brackets, rest)

/-- The lexemes of a text inside the given brackets. -/
def lexFrom : Nat → List Char → List Char → Option (List Lexeme)
  | _, brackets, [] => if brackets.isEmpty then some [] else none
  | 0, _, _ => none
  | fuel + 1, brackets, s => do
      let (lexeme, brackets, rest) ← lexStep brackets s
      let more ← lexFrom fuel brackets rest
      return lexeme.toList ++ more

/-- The lexemes of a text; none if something in it is no lexeme or a bracket is not closed. -/
def lex (s : List Char) : Option (List Lexeme) := lexFrom (s.length + 1) [] s

end OptionProtocol.Expression
