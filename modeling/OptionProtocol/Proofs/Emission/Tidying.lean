import OptionProtocol.Emission.Formatting
import OptionProtocol.Proofs.Text.Lines
import OptionProtocol.Proofs.Text.Trimming

/-! Cleaning up the layout of code. What comes out has nothing left to clean up; a text inside that
has nothing to clean up stands there as it was, and any other text as the cleaning leaves it. -/

set_option autoImplicit false

namespace OptionProtocol.Formatting

open OptionProtocol.Filter (lines unlines)
open Text (isBlank trim trimEnd IsTrimmed)

/-- There is nothing to clean up in the text: no line ends with a blank before its end, and no more
than two empty lines follow one another. -/
structure IsTidy (s : List Char) : Prop where
  ends : ∀ c, isBlank c = true → c ≠ '\n' → ¬[c, '\n'] <:+: s
  gaps : ¬['\n', '\n', '\n', '\n'] <:+: s

/-- The text with its lines cleaned up. -/
def tidied (s : List Char) : List Char := unlines (squeeze 0 (lines s))

theorem format_eq (code : List Char) : format code = trim (· == '\n') (tidied code) ++ ['\n'] := rfl

theorem IsTidy.mono {part s : List Char} (tidy : IsTidy s) (inside : part <:+: s) :
    IsTidy part where
  ends c blank other found := tidy.ends c blank other (found.trans inside)
  gaps found := tidy.gaps (found.trans inside)

/-! The lines that are left. -/

/-- None of the lines ends with a blank. -/
def Stripped (rows : List (List Char)) : Prop :=
  ∀ line ∈ rows, ∀ c ∈ line.getLast?, isBlank c = false

/-- No three empty lines follow one another. -/
def Spaced (rows : List (List Char)) : Prop := ¬[[], [], []] <:+: rows

theorem stripped_squeeze (count : Nat) (rows : List (List Char)) :
    Stripped (squeeze count rows) := by
  induction rows generalizing count with
  | nil => simp [Stripped, squeeze]
  | cons line rows ih =>
    unfold squeeze
    dsimp only
    split
    · split
      · exact List.forall_mem_cons.mpr ⟨by simp, ih (count + 1)⟩
      · exact ih (count + 1)
    · exact List.forall_mem_cons.mpr ⟨Text.drop_getLast?_trimEnd isBlank line, ih 0⟩

theorem isPrefix_of_isPrefix_append_cons {run front back : List (List Char)} {line : List Char}
    (other : line ∉ run) (starts : run <+: front ++ line :: back) : run <+: front := by
  obtain before | ⟨more, rfl⟩ :=
    List.prefix_or_prefix_of_prefix starts (List.prefix_append front (line :: back))
  · exact before
  · rw [List.prefix_append_right_inj, List.prefix_cons_iff] at starts
    obtain rfl | ⟨more, rfl, _⟩ := starts
    · simp
    · simp at other

/-- A run of other lines lies before or behind a line. -/
theorem isInfix_append_cons {run front back : List (List Char)} {line : List Char}
    (other : line ∉ run) (inside : run <:+: front ++ line :: back) :
    run <:+: front ∨ run <:+: back := by
  induction front with
  | nil =>
    obtain starts | behind := List.infix_cons_iff.mp inside
    · exact .inl (isPrefix_of_isPrefix_append_cons other starts).isInfix
    · exact .inr behind
  | cons first front ih =>
    obtain starts | later := List.infix_cons_iff.mp inside
    · exact .inl (isPrefix_of_isPrefix_append_cons other starts).isInfix
    · exact (ih later).imp_left List.infix_cons

theorem spaced_squeeze (count : Nat) (rows : List (List Char)) :
    Spaced (List.replicate (min count 2) [] ++ squeeze count rows) := by
  have short (n : Nat) (few : n ≤ 2) : Spaced (List.replicate n []) := by
    intro inside
    have longer := inside.length_le
    simp at longer
    omega
  induction rows generalizing count with
  | nil => simpa [squeeze] using short (min count 2) (Nat.min_le_right count 2)
  | cons line rows ih =>
    unfold squeeze
    dsimp only
    split
    · split
      · rename_i few
        have rest := ih (count + 1)
        rw [Nat.min_eq_left (by omega), List.replicate_succ', List.append_assoc] at rest
        rwa [Nat.min_eq_left (by omega)]
      · have rest := ih (count + 1)
        rw [Nat.min_eq_right (by omega)] at rest
        rwa [Nat.min_eq_right (by omega)]
    · rename_i filled
      intro inside
      have other : trimEnd isBlank line ∉ ([[], [], []] : List (List Char)) := by
        simpa [List.isEmpty_iff] using filled
      obtain before | behind := isInfix_append_cons other inside
      · exact short _ (Nat.min_le_right count 2) before
      · exact ih 0 behind

/-- Nothing is done to lines that are fine already. -/
theorem squeeze_eq_self {rows : List (List Char)} {count : Nat} (few : count ≤ 2)
    (stripped : Stripped rows) (spaced : Spaced (List.replicate count [] ++ rows)) :
    squeeze count rows = rows := by
  induction rows generalizing count with
  | nil => rfl
  | cons line rows ih =>
    obtain ⟨here, above⟩ := List.forall_mem_cons.mp stripped
    unfold squeeze
    simp only [Text.trimEnd_eq_self here]
    split
    · rename_i empty
      obtain rfl := List.isEmpty_iff.mp empty
      have room : count < 2 := by
        refine Nat.lt_of_le_of_ne few ?_
        rintro rfl
        exact spaced ⟨[], rows, rfl⟩
      rw [if_pos room, ih room above]
      rwa [List.replicate_succ', List.append_assoc]
    · rw [ih (Nat.zero_le 2) above]
      exact fun inside => spaced (inside.trans ⟨List.replicate count [] ++ [line], [], by simp⟩)

theorem squeeze_append (count : Nat) (front back : List (List Char)) :
    ∃ seen, squeeze count (front ++ back) = squeeze count front ++ squeeze seen back := by
  induction front generalizing count with
  | nil => exact ⟨count, rfl⟩
  | cons line front ih =>
    rw [List.cons_append]
    simp only [squeeze]
    split
    · obtain ⟨seen, rest⟩ := ih (count + 1)
      refine ⟨seen, ?_⟩
      rw [rest]
      split <;> rfl
    · obtain ⟨seen, rest⟩ := ih 0
      exact ⟨seen, by rw [rest]; rfl⟩

/-! From lines to texts. -/

variable {rows : List (List Char)} {text : List Char}

theorem ends_unlines (single : ∀ line ∈ rows, '\n' ∉ line) (stripped : Stripped rows) :
    ∀ c, isBlank c = true → c ≠ '\n' → ¬[c, '\n'] <:+: unlines rows := by
  rintro c blank other ⟨front, back, whole⟩
  have some : rows ≠ [] := by
    rintro rfl
    simp [unlines, Text.joinWith] at whole
  have split := congrArg lines whole
  rw [Filter.lines_unlines_of_single some single, List.append_assoc,
    show front ++ ([c, '\n'] ++ back) = (front ++ [c]) ++ '\n' :: back by simp,
    Filter.lines_append] at split
  obtain ⟨before, line, last⟩ := Filter.lines_append_single front other
  have member : line ++ [c] ∈ rows := by
    rw [← split, last]
    simp
  have kept := stripped _ member c List.getLast?_concat
  rw [blank] at kept
  cases kept

theorem gaps_unlines (single : ∀ line ∈ rows, '\n' ∉ line) (spaced : Spaced rows) :
    ¬['\n', '\n', '\n', '\n'] <:+: unlines rows := by
  rintro ⟨front, back, whole⟩
  have some : rows ≠ [] := by
    rintro rfl
    simp [unlines, Text.joinWith] at whole
  have split := congrArg lines whole
  rw [Filter.lines_unlines_of_single some single, List.append_assoc, List.cons_append,
    Filter.lines_append] at split
  simp only [List.cons_append, List.nil_append, Filter.lines_newline_cons] at split
  exact spaced ⟨lines front, lines back, by rw [← split]; simp⟩

theorem newline_not_mem_of_mem_squeeze {code line : List Char}
    (member : line ∈ squeeze 0 (lines code)) : '\n' ∉ line := by
  have single : ∀ line ∈ lines code, '\n' ∉ line := fun line => Filter.newline_not_mem_of_mem_lines
  generalize lines code = rows at member single
  generalize (0 : Nat) = count at member
  induction rows generalizing count with
  | nil => cases member
  | cons first rows ih =>
    obtain ⟨here, single⟩ := List.forall_mem_cons.mp single
    simp only [squeeze] at member
    split at member
    · split at member
      · obtain rfl | later := List.mem_cons.mp member
        · simp
        · exact ih single _ later
      · exact ih single _ member
    · obtain rfl | later := List.mem_cons.mp member
      · exact fun inside => here ((Text.isPrefix_trimEnd isBlank first).subset inside)
      · exact ih single _ later

theorem squeeze_ne_nil {rows : List (List Char)} (some : rows ≠ []) : squeeze 0 rows ≠ [] := by
  obtain ⟨first, rows, rfl⟩ := List.exists_cons_of_ne_nil some
  simp only [squeeze]
  split <;> simp

theorem append_newline {back : List Char} (newlines : ∀ c ∈ back, (c == '\n') = true) :
    back ++ ['\n'] = '\n' :: back := by
  induction back with
  | nil => rfl
  | cons c back ih =>
    obtain ⟨here, newlines⟩ := List.forall_mem_cons.mp newlines
    rw [List.cons_append, ih newlines, beq_iff_eq.mp here]

/-- Formatted code has nothing to clean up. -/
theorem isTidy_format (code : List Char) : IsTidy (format code) := by
  have single (line : List Char) (member : line ∈ squeeze 0 (lines code)) : '\n' ∉ line :=
    newline_not_mem_of_mem_squeeze member
  have stripped := stripped_squeeze 0 (lines code)
  have spaced : Spaced (squeeze 0 (lines code)) := spaced_squeeze 0 (lines code)
  obtain ⟨front, back, whole, _, backs⟩ := Text.exists_trim (· == '\n') (tidied code)
  have last := (Text.isTrimmed_trim (· == '\n') (tidied code)).last
  rw [format_eq]
  generalize trim (· == '\n') (tidied code) = kept at whole last
  constructor
  · -- One more line end behind the last line does no harm.
    have ended : unlines (squeeze 0 (lines code) ++ [[]]) = tidied code ++ ['\n'] :=
      Filter.unlines_append (squeeze_ne_nil (Filter.lines_ne_nil code)) (by simp)
    have closed : kept ++ ['\n'] <:+: tidied code ++ ['\n'] := by
      refine ⟨front, back, ?_⟩
      rw [whole, List.append_assoc _ back, append_newline backs]
      simp
    have alone : ∀ line ∈ squeeze 0 (lines code) ++ [[]], '\n' ∉ line :=
      List.forall_mem_append.mpr ⟨single, by simp⟩
    have bare : Stripped (squeeze 0 (lines code) ++ [[]]) :=
      List.forall_mem_append.mpr ⟨stripped, by simp⟩
    intro c blank other found
    exact ends_unlines alone bare c blank other (ended ▸ found.trans closed)
  · intro found
    obtain ⟨before, ending⟩ | inside := List.infix_concat_iff.mp found
    · have cut : (before ++ ['\n', '\n'] ++ ['\n']) ++ ['\n'] = kept ++ ['\n'] := by
        simpa using ending
      obtain rfl := List.append_cancel_right cut
      cases last '\n' List.getLast?_concat
    · exact gaps_unlines single spaced (inside.trans ⟨front, back, whole.symm⟩)

/-! A text inside the code. -/

theorem ne_newline {c : Char} (kept : isBlank c = false) : c ≠ '\n' := by
  rintro rfl
  revert kept
  decide

theorem squeeze_filled {c : Char} {line : List Char} (member : c ∈ line) (kept : isBlank c = false)
    (count : Nat) (rows : List (List Char)) :
    squeeze count (line :: rows) = trimEnd isBlank line :: squeeze 0 rows := by
  have filled : trimEnd isBlank line ≠ [] := List.ne_nil_of_mem (Text.mem_trimEnd member kept)
  simp only [squeeze, List.isEmpty_iff, filled, if_false]

theorem unlines_append_head (indent first : List Char) (rows : List (List Char)) :
    unlines ((indent ++ first) :: rows) = indent ++ unlines (first :: rows) := by
  cases rows with
  | nil => simp [unlines, Text.joinWith]
  | cons next rows => simp [Filter.unlines_cons]

theorem isInfix_unlines {front rows back : List (List Char)} (some : rows ≠ []) :
    unlines rows <:+: unlines (front ++ (rows ++ back)) := by
  have inner : unlines rows <+: unlines (rows ++ back) := by
    by_cases none : back = []
    · simp [none]
    · rw [Filter.unlines_append some none]
      exact List.prefix_append _ _
  by_cases none : front = []
  · simpa [none] using inner.isInfix
  · rw [Filter.unlines_append none (by simp [some])]
    exact inner.isInfix.trans ⟨unlines front ++ ['\n'], [], by simp⟩

theorem exists_last_tidied {c : Char} (kept : isBlank c = false) (front : List Char) :
    ∃ before, tidied (front ++ [c]) = before ++ [c] := by
  obtain ⟨rows, line, split⟩ := Filter.lines_append_single front (ne_newline kept)
  obtain ⟨seen, squeezed⟩ := squeeze_append 0 rows [line ++ [c]]
  have whole : trimEnd isBlank (line ++ [c]) = line ++ [c] :=
    Text.trimEnd_eq_self (by simpa [List.getLast?_concat] using kept)
  rw [tidied, split, squeezed, squeeze_filled (c := c) (by simp) kept, whole, squeeze]
  by_cases none : squeeze 0 rows = []
  · exact ⟨line, by simp [none, unlines, Text.joinWith]⟩
  · rw [Filter.unlines_append none (by simp)]
    exact ⟨unlines (squeeze 0 rows) ++ '\n' :: line, by simp [unlines, Text.joinWith]⟩

theorem exists_first_tidied {c : Char} (kept : isBlank c = false) (rest : List Char) :
    ∃ line left more, lines (c :: rest) = (c :: line) :: more ∧
      trimEnd isBlank (c :: line) = c :: left ∧
      tidied (c :: rest) = unlines ((c :: left) :: squeeze 0 more) := by
  obtain ⟨line, more, split⟩ := List.exists_cons_of_ne_nil (Filter.lines_ne_nil rest)
  obtain ⟨left, ended⟩ := Text.trimEnd_cons kept line
  have whole : lines (c :: rest) = (c :: line) :: more := by
    rw [Filter.lines_cons (ne_newline kept), split]
    rfl
  refine ⟨line, left, more, whole, ended, ?_⟩
  rw [tidied, whole, squeeze_filled List.mem_cons_self kept, ended]

variable {text : List Char}

theorem isTrimmed_tidied (trimmed : IsTrimmed isBlank text) (filled : text ≠ []) :
    tidied text ≠ [] ∧ IsTrimmed (· == '\n') (tidied text) := by
  have first : ∀ c ∈ (tidied text).head?, (c == '\n') = false := by
    obtain ⟨c, rest, rfl⟩ := List.exists_cons_of_ne_nil filled
    have kept := trimmed.first c rfl
    obtain ⟨line, left, more, _, _, whole⟩ := exists_first_tidied kept rest
    have head : (tidied (c :: rest)).head? = some c := by
      rw [whole]
      cases squeeze 0 more with
      | nil => simp [unlines, Text.joinWith]
      | cons next more => simp [Filter.unlines_cons]
    rw [head]
    rintro _ ⟨⟩
    exact beq_false_of_ne (ne_newline kept)
  obtain rfl | ⟨front, c, rfl⟩ := List.eq_nil_or_concat text
  · exact absurd rfl filled
  rw [List.concat_eq_append] at trimmed first ⊢
  have kept := trimmed.last c List.getLast?_concat
  obtain ⟨before, whole⟩ := exists_last_tidied kept front
  refine ⟨by simp [whole], first, ?_⟩
  rw [whole, List.getLast?_concat]
  rintro _ ⟨⟩
  exact beq_false_of_ne (ne_newline kept)

/-- What a line of the code ends with is found in the formatted code as the cleaning leaves it. -/
theorem tidied_isInfix_format (before after : List (List Char)) {indent : List Char}
    (single : '\n' ∉ indent) (trimmed : IsTrimmed isBlank text) (filled : text ≠ []) :
    tidied text <:+: format (unlines (before ++ (indent ++ text) :: after)) := by
  obtain ⟨some, ends⟩ := isTrimmed_tidied trimmed filled
  rw [format_eq]
  refine List.IsInfix.trans (ends.isInfix_trim some ?_) (List.prefix_append _ _).isInfix
  obtain ⟨c, rest, rfl⟩ := List.exists_cons_of_ne_nil filled
  have kept := trimmed.first c rfl
  obtain ⟨line, left, more, split, ended, whole⟩ := exists_first_tidied kept rest
  have member : c ∈ indent ++ c :: line := by simp
  have own : lines (indent ++ c :: rest) = (indent ++ c :: line) :: more := by
    rw [Filter.lines_append_left single, split]
    rfl
  obtain ⟨seen, first⟩ := squeeze_append 0 (before.flatMap lines)
    ((indent ++ c :: line) :: more ++ after.flatMap lines)
  obtain ⟨last, second⟩ := squeeze_append seen ((indent ++ c :: line) :: more)
    (after.flatMap lines)
  have code : lines (unlines (before ++ (indent ++ c :: rest) :: after)) =
      before.flatMap lines ++ ((indent ++ c :: line) :: more ++ after.flatMap lines) := by
    rw [Filter.lines_unlines (by simp), List.flatMap_append, List.flatMap_cons, own]
  have block : squeeze seen ((indent ++ c :: line) :: more) =
      (indent ++ c :: left) :: squeeze 0 more := by
    rw [squeeze_filled member kept, Text.trimEnd_append List.mem_cons_self kept, ended]
  have inside : tidied (c :: rest) <:+: unlines ((indent ++ c :: left) :: squeeze 0 more) := by
    rw [unlines_append_head, whole]
    exact (List.suffix_append _ _).isInfix
  refine inside.trans ?_
  rw [tidied.eq_1 (unlines _), code, first, second, block]
  exact isInfix_unlines (by simp)

theorem exists_unlines_concat (rows : List (List Char)) (line : List Char) :
    ∃ front, unlines (rows ++ [line]) = front ++ line := by
  by_cases none : rows = []
  · exact ⟨[], by simp [none, unlines, Text.joinWith]⟩
  · refine ⟨unlines rows ++ ['\n'], ?_⟩
    rw [Filter.unlines_append none (by simp)]
    simp [unlines, Text.joinWith]

theorem stripped_lines (tidy : IsTidy text) (trimmed : IsTrimmed isBlank text) :
    Stripped (lines text) := by
  intro line member c last
  obtain ⟨front, rfl⟩ := List.getLast?_eq_some_iff.mp last
  obtain ⟨before, after, split⟩ := List.append_of_mem member
  obtain ⟨start, upTo⟩ := exists_unlines_concat before (front ++ [c])
  have whole := Filter.unlines_lines text
  rw [split, List.append_cons] at whole
  by_cases none : after = []
  · rw [none, List.append_nil, upTo, ← List.append_assoc] at whole
    exact trimmed.last c (by rw [← whole, List.getLast?_concat]; rfl)
  · rw [Filter.unlines_append (by simp) none, upTo] at whole
    by_contra blank
    have other : c ≠ '\n' := by
      rintro rfl
      exact Filter.newline_not_mem_of_mem_lines member (by simp)
    refine tidy.ends c (by simpa using blank) other ⟨start ++ front, unlines after, ?_⟩
    rw [← whole]
    simp

theorem spaced_lines (tidy : IsTidy text) (trimmed : IsTrimmed isBlank text) (filled : text ≠ []) :
    Spaced (lines text) := by
  rintro ⟨before, after, split⟩
  -- The text begins and ends with lines that are not empty.
  have first : before ≠ [] := by
    rintro rfl
    obtain ⟨c, rest, rfl⟩ := List.exists_cons_of_ne_nil filled
    obtain ⟨line, _, more, starts, _⟩ := exists_first_tidied (trimmed.first c rfl) rest
    rw [starts] at split
    cases split
  have last : after ≠ [] := by
    rintro rfl
    obtain rfl | ⟨front, c, rfl⟩ := List.eq_nil_or_concat text
    · exact filled rfl
    rw [List.concat_eq_append] at trimmed split
    have kept := trimmed.last c List.getLast?_concat
    obtain ⟨rows, line, ends⟩ := Filter.lines_append_single front (ne_newline kept)
    have lasts := congrArg List.getLast? (split.trans ends)
    simp at lasts
  have whole := Filter.unlines_lines text
  rw [← split, List.append_assoc, Filter.unlines_append first (by simp),
    Filter.unlines_append (by simp) last] at whole
  refine tidy.gaps ⟨unlines before, unlines after, ?_⟩
  rw [← whole]
  simp [unlines, Text.joinWith, List.intercalate]

/-- A text with nothing to clean up is left as it is. -/
theorem tidied_eq_self (tidy : IsTidy text) (trimmed : IsTrimmed isBlank text)
    (filled : text ≠ []) : tidied text = text := by
  rw [tidied, squeeze_eq_self (Nat.zero_le 2) (stripped_lines tidy trimmed)
    (spaced_lines tidy trimmed filled), Filter.unlines_lines]

/-- A text at the end of a line of the code is found in the formatted code as the cleaning leaves
it, so as it was just where there is nothing to clean up. -/
theorem isInfix_format_iff (before after : List (List Char)) {indent : List Char}
    (single : '\n' ∉ indent) (trimmed : IsTrimmed isBlank text) (filled : text ≠ []) :
    text <:+: format (unlines (before ++ (indent ++ text) :: after)) ↔ IsTidy text := by
  refine ⟨(isTidy_format _).mono, fun tidy => ?_⟩
  have inside := tidied_isInfix_format before after single trimmed filled
  rwa [tidied_eq_self tidy trimmed filled] at inside

end OptionProtocol.Formatting
