import OptionProtocol.Text.Basic
import OptionProtocol.Text.LetterCase

/-! Names in the styles of their targets: words are found in one spelling and written in
another. -/

set_option autoImplicit false

namespace OptionProtocol

inductive NameCase where
  | snake
  | camel
  | pascal
  | kebab
  | screamingSnake
  deriving DecidableEq, Repr

namespace NameCase

def all : List NameCase := [.snake, .camel, .pascal, .kebab, .screamingSnake]

def name : NameCase → String
  | .snake => "snake"
  | .camel => "camel"
  | .pascal => "pascal"
  | .kebab => "kebab"
  | .screamingSnake => "screaming_snake"

def ofName? (name : String) : Option NameCase := all.find? fun style => style.name == name

end NameCase

namespace Name

/-- Put an underscore between an acronym and the word that follows it: before the last
capital of a run that a small letter follows. -/
def splitAcronyms : List Char → List Char
  | a :: b :: c :: rest =>
      if a.isUpper && b.isUpper && c.isLower then a :: '_' :: splitAcronyms (b :: c :: rest)
      else a :: splitAcronyms (b :: c :: rest)
  | s => s

/-- Put an underscore between a small letter or digit and a capital. -/
def splitCapitals : List Char → List Char
  | a :: b :: rest =>
      if (a.isLower || a.isDigit) && b.isUpper then a :: '_' :: splitCapitals (b :: rest)
      else a :: splitCapitals (b :: rest)
  | s => s

def collapseUnderscores : List Char → List Char
  | a :: b :: rest =>
      if a = '_' ∧ b = '_' then collapseUnderscores (b :: rest)
      else a :: collapseUnderscores (b :: rest)
  | s => s

/-- The words of a name in small letters with single underscores between them. -/
def snake (s : List Char) : List Char :=
  let hyphensGone := s.map fun c => if c = '-' then '_' else c
  Text.trim (· == '_')
    (collapseUnderscores (Text.lower (splitCapitals (splitAcronyms hyphensGone))))

def camel (s : List Char) : List Char :=
  match Text.splitOn '_' (snake s) with
  | [] => []
  | first :: rest => Text.lower first ++ rest.flatMap Text.capitalize

def pascal (s : List Char) : List Char :=
  (Text.splitOn '_' (snake s)).flatMap Text.capitalize

def kebab (s : List Char) : List Char := (snake s).map fun c => if c = '_' then '-' else c

def screamingSnake (s : List Char) : List Char := Text.upper (snake s)

def inCase (style : NameCase) (s : List Char) : List Char :=
  match style with
  | .snake => snake s
  | .camel => camel s
  | .pascal => pascal s
  | .kebab => kebab s
  | .screamingSnake => screamingSnake s

def convert (style : NameCase) (name : String) : String := Text.over (inCase style) name

/-- Put a hyphen between a small letter and a capital. -/
def splitFlagWords : List Char → List Char
  | a :: b :: rest =>
      if a.isLower && b.isUpper then a :: '-' :: splitFlagWords (b :: rest)
      else a :: splitFlagWords (b :: rest)
  | s => s

/-- The flag of a property that names none. -/
def deriveFlag (property : String) : String :=
  Text.over (fun s => Text.lower (splitFlagWords s)) property

end Name

end OptionProtocol
