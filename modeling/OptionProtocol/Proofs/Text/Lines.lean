import OptionProtocol.Proofs.Text.Pieces
import OptionProtocol.Template.Filter

/-! Lines of a text, and texts put together from lines. Where a text is cut at a line end its lines
are those of the two parts, and what stands in one line of it can have lines of its own. -/

set_option autoImplicit false

namespace OptionProtocol.Filter

variable {s : List Char} {c : Char}

theorem lines_ne_nil (s : List Char) : lines s ≠ [] := Text.splitWhere_ne_nil _ s

theorem unlines_lines (s : List Char) : unlines (lines s) = s := Text.joinWith_splitOn '\n' s

theorem newline_not_mem_of_mem_lines {line : List Char} (member : line ∈ lines s) : '\n' ∉ line :=
  fun inside => by simpa using Text.sep_eq_false_of_mem_splitWhere member '\n' inside

theorem lines_newline_cons (s : List Char) : lines ('\n' :: s) = [] :: lines s := by
  simp [lines, Text.splitOn, Text.splitWhere]

theorem lines_cons (other : c ≠ '\n') (s : List Char) :
    lines (c :: s) = (lines s).modifyHead (c :: ·) := by
  simp [lines, Text.splitOn, Text.splitWhere, other]

theorem lines_append (front back : List Char) :
    lines (front ++ '\n' :: back) = lines front ++ lines back := by
  induction front with
  | nil => exact lines_newline_cons back
  | cons c front ih =>
    by_cases same : c = '\n'
    · subst same
      rw [List.cons_append, lines_newline_cons, lines_newline_cons, ih]
      rfl
    · obtain ⟨line, more, split⟩ := List.exists_cons_of_ne_nil (lines_ne_nil front)
      rw [List.cons_append, lines_cons same, lines_cons same, ih, split]
      rfl

/-- A text without line ends stands before the first line of what follows. -/
theorem lines_append_left {front : List Char} (single : '\n' ∉ front) (s : List Char) :
    lines (front ++ s) = (lines s).modifyHead (front ++ ·) := by
  induction front with
  | nil =>
    change lines s = (lines s).modifyHead id
    rw [List.modifyHead_id, id]
  | cons c front ih =>
    rw [List.mem_cons, not_or] at single
    rw [List.cons_append, lines_cons (Ne.symm single.1), ih single.2, List.modifyHead_modifyHead]
    rfl

theorem lines_single (single : '\n' ∉ s) : lines s = [s] := by
  simpa [lines, Text.splitOn, Text.splitWhere] using lines_append_left single []

theorem lines_append_single (s : List Char) (other : c ≠ '\n') :
    ∃ front line, lines (s ++ [c]) = front ++ [line ++ [c]] := by
  induction s with
  | nil => exact ⟨[], [], lines_cons other []⟩
  | cons d s ih =>
    obtain ⟨front, line, split⟩ := ih
    by_cases same : d = '\n'
    · subst same
      exact ⟨[] :: front, line, by rw [List.cons_append, lines_newline_cons, split]; rfl⟩
    · rw [List.cons_append, lines_cons same, split]
      cases front with
      | nil => exact ⟨[], d :: line, rfl⟩
      | cons first front => exact ⟨(d :: first) :: front, line, rfl⟩

theorem unlines_cons (line : List Char) {more : List (List Char)} (some : more ≠ []) :
    unlines (line :: more) = line ++ '\n' :: unlines more := by
  obtain ⟨next, more, rfl⟩ := List.exists_cons_of_ne_nil some
  simp [unlines, Text.joinWith, List.intercalate]

theorem unlines_append {front back : List (List Char)} (first : front ≠ []) (second : back ≠ []) :
    unlines (front ++ back) = unlines front ++ '\n' :: unlines back := by
  induction front with
  | nil => exact absurd rfl first
  | cons line front ih =>
    cases front with
    | nil => simpa [unlines, Text.joinWith, List.intercalate] using unlines_cons line second
    | cons next front =>
      rw [List.cons_append, unlines_cons line (by simp), ih (by simp), unlines_cons line (by simp)]
      simp

/-- Every piece brings lines of its own. -/
theorem lines_unlines {pieces : List (List Char)} (some : pieces ≠ []) :
    lines (unlines pieces) = pieces.flatMap lines := by
  induction pieces with
  | nil => exact absurd rfl some
  | cons piece pieces ih =>
    cases pieces with
    | nil => simp [unlines, Text.joinWith, List.intercalate]
    | cons next pieces => rw [unlines_cons piece (by simp), lines_append, ih (by simp)]; rfl

theorem lines_unlines_of_single {pieces : List (List Char)} (some : pieces ≠ [])
    (single : ∀ piece ∈ pieces, '\n' ∉ piece) : lines (unlines pieces) = pieces := by
  rw [lines, Text.splitOn_eq]
  exact List.splitOn_intercalate '\n' single some

/-- Some of the lines can be put together first. -/
theorem unlines_unlines {rows : List (List Char)} (some : rows ≠ []) (front back : List (List Char)) :
    unlines (front ++ unlines rows :: back) = unlines (front ++ rows ++ back) := by
  rw [← unlines_lines (unlines (front ++ unlines rows :: back)), lines_unlines (by simp),
    ← unlines_lines (unlines (front ++ rows ++ back)), lines_unlines (by simp [some])]
  simp [lines_unlines some]

end OptionProtocol.Filter
