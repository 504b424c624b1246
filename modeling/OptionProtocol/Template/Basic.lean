import OptionProtocol.Template.Filter
import OptionProtocol.Text.Identifier

/-! Templates: plain text with places for named values, which may pass through filters. -/

set_option autoImplicit false

namespace OptionProtocol

inductive Filter where
  | snakeCase
  | camelCase
  | pascalCase
  | indent (width : Nat)
  | comment (mark : String)
  | quoted
  | oneLine
  | docstring
  deriving DecidableEq, Repr

namespace Filter

/-- The filters by name, as they are without an argument. -/
def named : List (String × Filter) := [
  ("snake_case", .snakeCase), ("camel_case", .camelCase), ("pascal_case", .pascalCase),
  ("indent", .indent 4), ("comment", .comment "#"), ("py_str", .quoted),
  ("one_line", .oneLine), ("docstring", .docstring)]

def ofName? (name : String) : Option Filter := named.lookup name

def apply (filter : Filter) (s : String) : String :=
  match filter with
  | .snakeCase => Name.convert .snake s
  | .camelCase => Name.convert .camel s
  | .pascalCase => Name.convert .pascal s
  | .indent width => Text.over (Filter.indentLines width) s
  | .comment mark => Text.over (Filter.commentLines mark.toList) s
  | .quoted => Text.quoted s
  | .oneLine => Text.over Filter.joinWords s
  | .docstring => Text.over Filter.docstringLine s

def applyAll (filters : List Filter) (s : String) : String :=
  filters.foldl (fun s filter => filter.apply s) s

end Filter

namespace Template

inductive Piece where
  | text (value : String)
  | place (name : String) (filters : List Filter)
  deriving DecidableEq, Repr

/-- The text up to the first two closing braces, and what follows them. -/
def untilClosing : List Char → Option (List Char × List Char)
  | '\x7d' :: '\x7d' :: rest => some ([], rest)
  | c :: rest => (untilClosing rest).map fun found => (c :: found.1, found.2)
  | [] => none

theorem length_untilClosing {s inside rest : List Char}
    (found : untilClosing s = some (inside, rest)) : rest.length < s.length := by
  fun_induction untilClosing s generalizing inside with
  | case1 after =>
    simp only [Option.some.injEq, Prod.mk.injEq] at found
    obtain ⟨-, rfl⟩ := found
    simp only [List.length_cons]
    omega
  | case2 c s _ ih =>
    obtain ⟨⟨inner, after⟩, eq, same⟩ := Option.map_eq_some_iff.mp found
    simp only [Prod.mk.injEq] at same
    have := ih (same.2 ▸ eq)
    simp only [List.length_cons]
    omega
  | case3 => simp at found

/-- The place that the text between braces describes: a name, then filters. -/
def place? (inside : List Char) : Option Piece :=
  match (Text.splitOn '|' inside).map (Text.trim Text.isBlank) with
  | [] => none
  | name :: filters =>
      if Text.isIdentifier name then
        (filters.mapM fun filter => Filter.ofName? (String.ofList filter)).map
          (Piece.place (String.ofList name))
      else none

/-- Take a template apart. Braces that describe no place are plain text. -/
def piecesOf (s : List Char) : List Piece :=
  match s with
  | [] => []
  | '\x7b' :: '\x7b' :: rest =>
      match _found : untilClosing rest with
      | some (inside, after) =>
          match place? inside with
          | some piece => piece :: piecesOf after
          | none => .text "\x7b" :: piecesOf ('\x7b' :: rest)
      | none => .text "\x7b" :: piecesOf ('\x7b' :: rest)
  | c :: rest => .text (String.singleton c) :: piecesOf rest
termination_by s.length
decreasing_by
  · have := length_untilClosing _found
    simp only [List.length_cons]
    omega
  all_goals simp

/-- The text of a piece, or the name of the value that is missing. -/
def Piece.render (values : List (String × String)) : Piece → Except String String
  | .text value => .ok value
  | .place name filters =>
      match values.lookup name with
      | some value => .ok (Filter.applyAll filters value)
      | none => .error name

def renderPieces (values : List (String × String)) : List Piece → Except String String
  | [] => .ok ""
  | piece :: rest => do
      let first ← piece.render values
      let more ← renderPieces values rest
      return first ++ more

/-- Fill in the values of a template; the error is the name of the first one missing. -/
def fill (source : String) (values : List (String × String)) : Except String String :=
  renderPieces values (piecesOf (Text.normalizeLineEnds source.toList))

end Template

end OptionProtocol
