import OptionProtocol.Template.Filter

/-! The layout of generated code: no blanks at the ends of lines, at most two empty lines in
a row, none at the start, and one line end behind the last line. -/

set_option autoImplicit false

namespace OptionProtocol.Formatting

/-- Lines without the blanks at their ends. Of a run of empty lines two are kept; `count` of
the run have been seen. -/
def squeeze (count : Nat) : List (List Char) → List (List Char)
  | [] => []
  | line :: rest =>
      let kept := Text.trimEnd Text.isBlank line
      if kept.isEmpty then
        if count < 2 then [] :: squeeze (count + 1) rest else squeeze (count + 1) rest
      else kept :: squeeze 0 rest

def format (code : List Char) : List Char :=
  Text.trim (· == '\n') (Filter.unlines (squeeze 0 (Filter.lines code))) ++ ['\n']

end OptionProtocol.Formatting

namespace OptionProtocol

def formatCode (code : String) : String := Text.over Formatting.format code

end OptionProtocol
