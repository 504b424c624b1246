import OptionProtocol.Text.Basic

/-! Command lines: tokens written in one line, with quotes and backslashes for what would
not survive as it is. -/

set_option autoImplicit false

namespace OptionProtocol.CommandLine

/-- How the characters at a place are read. -/
inductive Quoting where
  | bare
  | single
  | double
  deriving DecidableEq, Repr

inductive SplitFault where
  | noClosingQuotation
  | noEscapedCharacter
  deriving DecidableEq, Repr

def SplitFault.message : SplitFault → String
  | .noClosingQuotation => "No closing quotation"
  | .noEscapedCharacter => "No escaped character"

def isSeparator (c : Char) : Bool := c = ' ' || c = '\t' || c = '\r' || c = '\n'

/-- A token in progress, backwards; none between tokens. A quote begins a token even when
nothing stands inside. -/
abbrev Pending := Option (List Char)

def Pending.push (pending : Pending) (c : Char) : Pending := some (c :: pending.getD [])

def Pending.begin (pending : Pending) : Pending := some (pending.getD [])

def Pending.finish (pending : Pending) : List (List Char) := (pending.map List.reverse).toList

/-- Tokens of the characters, the first one continuing `pending`. Outside quotes a backslash
takes the next character as it is; in double quotes only a double quote or a backslash. -/
def scan (quoting : Quoting) (pending : Pending) :
    List Char → Except SplitFault (List (List Char))
  | [] =>
      match quoting with
      | .bare => .ok pending.finish
      | _ => .error .noClosingQuotation
  | c :: rest =>
      match quoting with
      | .single =>
          if c = '\'' then scan .bare pending rest else scan .single (pending.push c) rest
      | .double =>
          if c = '"' then scan .bare pending rest
          else if c = '\\' then
            match rest with
            | [] => .error .noEscapedCharacter
            | next :: rest =>
                if next = '"' ∨ next = '\\' then scan .double (pending.push next) rest
                else scan .double ((pending.push '\\').push next) rest
          else scan .double (pending.push c) rest
      | .bare =>
          if c = '\\' then
            match rest with
            | [] => .error .noEscapedCharacter
            | next :: rest => scan .bare (pending.push next) rest
          else if c = '\'' then scan .single pending.begin rest
          else if c = '"' then scan .double pending.begin rest
          else if isSeparator c then do
            let more ← scan .bare none rest
            return pending.finish ++ more
          else scan .bare (pending.push c) rest

def split (line : String) : Except SplitFault (List String) :=
  (scan .bare none line.toList).map (·.map String.ofList)

/-- Characters that a token outside quotes would lose. -/
def isSpecial (c : Char) : Bool :=
  isSeparator c || c = '\x0b' || c = '\x0c' || c = '\'' || c = '"' || c = '\\'

/-- Characters that no shell gives a meaning to. -/
def isInert (c : Char) : Bool :=
  c.isAlphanum || "_@%+=:,./-".toList.contains c

/-- A token in single quotes; a single quote inside stands in double quotes. -/
def quoteSpecial (token : List Char) : List Char :=
  if token ≠ [] ∧ token.all isInert then token
  else '\'' :: (token.flatMap fun c => if c = '\'' then "'\"'\"'".toList else [c]) ++ ['\'']

def quote (token : List Char) : List Char :=
  if token ≠ [] ∧ !token.any isSpecial then token else quoteSpecial token

def join (tokens : List String) : String :=
  " ".intercalate (tokens.map fun token => String.ofList (quote token.toList))

end OptionProtocol.CommandLine
