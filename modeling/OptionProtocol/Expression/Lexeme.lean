/-! Lexemes of expressions. -/

set_option autoImplicit false

namespace OptionProtocol.Expression

/-- A string literal: what its letters before the quote say, and the characters between the
quotes. -/
structure StringLiteral where
  isBytes : Bool := false
  isRaw : Bool := false
  isFormatted : Bool := false
  body : List Char
  deriving DecidableEq, Repr

inductive Lexeme where
  | name
  | keyword (word : String)
  | number
  | string (literal : StringLiteral)
  | operator (symbol : String)
  | newline
  deriving DecidableEq, Repr

def keywords : List String := [
  "False", "None", "True", "and", "as", "assert", "async", "await", "break", "class",
  "continue", "def", "del", "elif", "else", "except", "finally", "for", "from", "global",
  "if", "import", "in", "is", "lambda", "nonlocal", "not", "or", "pass", "raise", "return",
  "try", "while", "with", "yield"]

/-- The operators, longer ones before those they begin with. -/
def operators : List String := [
  "**=", "//=", ">>=", "<<=", "...",
  "!=", "%=", "&=", "**", "*=", "+=", "-=", "->", "//", "/=", ":=", "<<", "<=", "<>", "==",
  ">=", ">>", "@=", "^=", "|=",
  "%", "&", "(", ")", "*", "+", ",", "-", ".", "/", ":", ";", "<", "=", ">", "@", "[", "]",
  "^", "\x7b", "|", "\x7d", "~"]

end OptionProtocol.Expression
