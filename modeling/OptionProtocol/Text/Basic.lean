import OptionProtocol.Text.Blank

/-! Splitting, trimming and replacing in texts, which are taken apart as lists of
characters. -/

set_option autoImplicit false

namespace OptionProtocol.Text

/-- The pieces between the characters that satisfy `sep`; one more piece than separators. -/
def splitWhere (sep : Char → Bool) : List Char → List (List Char)
  | [] => [[]]
  | c :: rest =>
      if sep c then [] :: splitWhere sep rest
      else (splitWhere sep rest).modifyHead (c :: ·)

def splitOn (sep : Char) : List Char → List (List Char) :=
  splitWhere (· == sep)

/-- The pieces of a text, put together again with `sep` between them. -/
def joinWith (sep : List Char) (pieces : List (List Char)) : List Char :=
  sep.intercalate pieces

def trimStart (drop : Char → Bool) (s : List Char) : List Char := s.dropWhile drop

def trimEnd (drop : Char → Bool) (s : List Char) : List Char :=
  (s.reverse.dropWhile drop).reverse

def trim (drop : Char → Bool) (s : List Char) : List Char := trimEnd drop (trimStart drop s)

/-- The maximal runs of characters that are not blank. -/
def words (s : List Char) : List (List Char) :=
  (splitWhere isBlank s).filter fun piece => !piece.isEmpty

/-- Replace the occurrences of `old` from left to right; replaced text is not looked at again. -/
def replaceAll (old new : List Char) (s : List Char) : List Char :=
  match s with
  | [] => []
  | c :: rest =>
      if old.length ≠ 0 ∧ old.isPrefixOf (c :: rest) then
        new ++ replaceAll old new ((c :: rest).drop old.length)
      else c :: replaceAll old new rest
termination_by s.length
decreasing_by all_goals (simp only [List.length_drop, List.length_cons]; omega)

/-- Line ends written as a carriage return, alone or before a line feed, become line feeds. -/
def normalizeLineEnds : List Char → List Char
  | [] => []
  | '\r' :: '\n' :: rest => '\n' :: normalizeLineEnds rest
  | c :: rest => (if c = '\r' then '\n' else c) :: normalizeLineEnds rest

theorem splitWhere_ne_nil (sep : Char → Bool) (s : List Char) : splitWhere sep s ≠ [] := by
  induction s with
  | nil => simp [splitWhere]
  | cons c rest ih =>
    unfold splitWhere
    split
    · simp
    · cases pieces : splitWhere sep rest with
      | nil => exact absurd pieces ih
      | cons piece more => simp

/-- Splitting loses only the separators. -/
theorem joinWith_splitOn (sep : Char) (s : List Char) :
    joinWith [sep] (splitOn sep s) = s := by
  induction s with
  | nil => rfl
  | cons c rest ih =>
    simp only [splitOn, splitWhere] at ih ⊢
    cases pieces : splitWhere (· == sep) rest with
    | nil => exact absurd pieces (splitWhere_ne_nil _ rest)
    | cons piece more =>
      rw [pieces] at ih
      by_cases same : c = sep
      · subst same
        simp only [beq_self_eq_true, if_true, joinWith] at ih ⊢
        rw [← ih]
        cases more <;> simp [List.intercalate, List.intersperse]
      · simp only [beq_iff_eq, same, if_false, joinWith, List.modifyHead_cons] at ih ⊢
        rw [← ih]
        cases more <;> simp [List.intercalate, List.intersperse]

theorem length_trim_le (drop : Char → Bool) (s : List Char) : (trim drop s).length ≤ s.length := by
  have start : (trimStart drop s).length ≤ s.length := (List.dropWhile_suffix drop).length_le
  have finish : (trimEnd drop (trimStart drop s)).length ≤ (trimStart drop s).length := by
    have := (List.dropWhile_suffix drop (l := (trimStart drop s).reverse)).length_le
    simpa [trimEnd] using this
  exact Nat.le_trans finish start

end OptionProtocol.Text

namespace OptionProtocol

/-- Apply a function on characters to a text. -/
def Text.over (f : List Char → List Char) (s : String) : String := String.ofList (f s.toList)

def Text.trimmed (s : String) : String := Text.over (Text.trim Text.isBlank) s

def Text.isAllBlank (s : String) : Bool := s.toList.all Text.isBlank

def Text.pieces (sep : Char) (s : String) : List String :=
  (Text.splitOn sep s.toList).map String.ofList

end OptionProtocol
