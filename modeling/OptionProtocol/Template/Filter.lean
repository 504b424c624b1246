import OptionProtocol.Name.Case
import OptionProtocol.Text.Quoted

/-! Filters: what is done to a text before it is put into generated code. -/

set_option autoImplicit false

namespace OptionProtocol.Filter

def lines (s : List Char) : List (List Char) := Text.splitOn '\n' s

def unlines (lines : List (List Char)) : List Char := Text.joinWith ['\n'] lines

def isBlankLine (line : List Char) : Bool := line.all Text.isBlank

/-- Spaces before every line that is not blank. -/
def indentLines (width : Nat) (s : List Char) : List Char :=
  unlines ((lines s).map fun line =>
    if isBlankLine line then line else List.replicate width ' ' ++ line)

def commentLines (mark s : List Char) : List Char :=
  unlines ((lines s).map fun line =>
    if isBlankLine line then mark else mark ++ ' ' :: line)

def joinWords (s : List Char) : List Char := Text.joinWith [' '] (Text.words s)

/-- One line that may stand between three double quotes. -/
def docstringLine (s : List Char) : List Char :=
  Text.replaceAll ['"', '"', '"'] ['\\', '"', '\\', '"', '\\', '"']
    (Text.replaceAll ['\\'] ['\\', '\\'] (joinWords s))

end OptionProtocol.Filter
