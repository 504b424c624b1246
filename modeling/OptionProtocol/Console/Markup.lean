import OptionProtocol.Text.Basic
import OptionProtocol.Text.LetterCase

/-! Markup of texts on the console. Tags in brackets set styles and are not shown; a backslash
before a tag shows it. -/

set_option autoImplicit false

namespace OptionProtocol.Markup

inductive Piece where
  | text (shown : List Char)
  | tag (inside : List Char)
  deriving DecidableEq, Repr

def startsTag (c : Char) : Bool := c.isLower || c = '#' || c = '/' || c = '@'

/-- The inside of a tag up to its closing bracket, and what follows it. -/
def untilBracket : List Char → Option (List Char × List Char)
  | [] => none
  | c :: rest =>
      if c = ']' then some ([], rest)
      else if c = '[' then none
      else (untilBracket rest).map fun found => (c :: found.1, found.2)

theorem length_untilBracket {s inside rest : List Char}
    (found : untilBracket s = some (inside, rest)) : rest.length < s.length := by
  induction s generalizing inside with
  | nil => simp [untilBracket] at found
  | cons c s ih =>
    unfold untilBracket at found
    split at found
    · simp_all
    · split at found
      · simp at found
      · obtain ⟨⟨inner, after⟩, eq, same⟩ := Option.map_eq_some_iff.mp found
        simp only [Prod.mk.injEq] at same
        have := ih (same.2 ▸ eq)
        simp only [List.length_cons]
        omega

def tag? (s : List Char) : Option (List Char × List Char) :=
  match s with
  | c :: _ => if startsTag c then untilBracket s else none
  | [] => none

theorem length_tag? {s inside rest : List Char} (found : tag? s = some (inside, rest)) :
    rest.length < s.length := by
  unfold tag? at found
  split at found
  · split at found
    · exact length_untilBracket found
    · simp at found
  · simp at found

def backslashes (count : Nat) : List Char := List.replicate count '\\'

/-- Take a text apart; `count` backslashes stand right before it. Before a tag every other
backslash is shown, and an odd one shows the tag. Before any other bracket one is left out. -/
def pieces (count : Nat) (s : List Char) : List Piece :=
  match s with
  | [] => [.text (backslashes count)]
  | c :: rest =>
      if c = '\\' then pieces (count + 1) rest
      else if c = '[' then
        match _found : tag? rest with
        | some (inside, after) =>
            .text (backslashes (count / 2)) ::
              (if count % 2 = 1 then .text ('[' :: inside ++ [']']) else .tag inside) ::
              pieces 0 after
        | none => .text (backslashes (count - 1) ++ ['[']) :: pieces 0 rest
      else .text (backslashes count ++ [c]) :: pieces 0 rest
termination_by s.length
decreasing_by
  · simp
  · have := length_tag? _found
    simp only [List.length_cons]
    omega
  all_goals simp

def styleNames : List (String × String) := [
  ("b", "bold"), ("d", "dim"), ("i", "italic"), ("u", "underline"), ("uu", "underline2"),
  ("r", "reverse"), ("c", "conceal"), ("s", "strike"), ("o", "overline")]

def styleName (name : List Char) : String :=
  let plain := Text.lowered (Text.trimmed (String.ofList name))
  (styleNames.lookup plain).getD plain

/-- Close a style that was opened, or with no name the last one; none if there is none. -/
def close (name : List Char) (opened : List String) : Option (List String) :=
  if (Text.trim Text.isBlank name).isEmpty then
    match opened with
    | _ :: rest => some rest
    | [] => none
  else if opened.contains (styleName name) then some (opened.erase (styleName name))
  else none

/-- What is shown of pieces, with the styles that are open, the last one first. None if a
style is closed that is not open. -/
def shown (opened : List String) : List Piece → Option (List Char)
  | [] => some []
  | .text s :: rest => (shown opened rest).map (s ++ ·)
  | .tag inside :: rest =>
      match inside.takeWhile (· ≠ '=') with
      | '/' :: name =>
          match close name opened with
          | some opened => shown opened rest
          | none => none
      | name => shown (styleName name :: opened) rest

/-- Control characters are never shown. -/
def isControl (c : Char) : Bool := [0x07, 0x08, 0x0B, 0x0C, 0x0D].contains c.toNat

def withoutControls (s : List Char) : List Char := s.filter fun c => !isControl c

end OptionProtocol.Markup

namespace OptionProtocol

/-- What the console shows of a text with markup, unless a tag closes nothing. -/
def Markup.render (s : String) : Option String :=
  (Markup.shown [] (Markup.pieces 0 s.toList)).map fun shown =>
    String.ofList (Markup.withoutControls shown)

/-- What the console shows of a text without markup. -/
def Markup.plain (s : String) : String := Text.over Markup.withoutControls s

end OptionProtocol
