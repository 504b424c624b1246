import OptionProtocol.Proofs.Emission.Rows

/-! The normal form of code. Formatting ends in it and leaves alone what has it already, and no line
is lost but blank ones. -/

set_option autoImplicit false

namespace OptionProtocol.Formatting

open OptionProtocol.Filter (lines unlines isBlankLine)
open Text (isBlank trim trimEnd IsTrimmed)

/-- The code ends with one line end, begins with no blank line unless it has no other one, and has
no blanks at the ends of its lines. Of three lines in a row one is not blank. -/
structure IsFormatted (s : List Char) : Prop where
  ended : ∃ front, s = front ++ ['\n'] ∧ front.getLast? ≠ some '\n'
  start : ∀ line ∈ (lines s).head?, isBlankLine line = true → s = ['\n']
  stripped : Stripped (lines s)
  spaced : ∀ run, run <:+: lines s → run.length = 3 → ∃ line ∈ run, isBlankLine line = false

/-- The lines that are not blank. -/
def filledLines (s : List Char) : List (List Char) :=
  (lines s).filter fun line => !isBlankLine line

variable {s line : List Char} {rows : List (List Char)}

/-! Blank lines. -/

theorem trimEnd_eq_nil_iff : trimEnd isBlank line = [] ↔ isBlankLine line = true := by
  simp [trimEnd, List.dropWhile_eq_nil_iff, isBlankLine]

theorem isBlankLine_trimEnd (line : List Char) :
    isBlankLine (trimEnd isBlank line) = isBlankLine line := by
  have same := Text.trimEnd_eq_self (Text.drop_getLast?_trimEnd isBlank line)
  rw [Bool.eq_iff_iff, ← trimEnd_eq_nil_iff, ← trimEnd_eq_nil_iff, same]

theorem Stripped.eq_nil (stripped : Stripped rows) (member : line ∈ rows)
    (blank : isBlankLine line = true) : line = [] := by
  rw [← Text.trimEnd_eq_self (stripped line member), trimEnd_eq_nil_iff]
  exact blank

theorem Stripped.spaced_iff (stripped : Stripped rows) : Spaced rows ↔
    ∀ run, run <:+: rows → run.length = 3 → ∃ line ∈ run, isBlankLine line = false := by
  constructor
  · intro spaced run inside three
    by_contra none
    have empty : ∀ line ∈ run, line = [] := fun line member =>
      stripped.eq_nil (inside.subset member) (by simpa using fun kept => none ⟨line, member, kept⟩)
    rw [List.eq_replicate_iff.mpr ⟨three, empty⟩] at inside
    exact spaced inside
  · intro filled inside
    obtain ⟨line, member, kept⟩ := filled _ inside rfl
    obtain rfl : line = [] := by simpa using member
    cases kept

/-! Empty lines at the ends of a text. -/

theorem head_of_lines (first : (lines s).head? = some []) : s = [] ∨ s.head? = some '\n' := by
  cases s with
  | nil => exact .inl rfl
  | cons c s =>
    by_cases same : c = '\n'
    · exact .inr (congrArg some same)
    · rw [Filter.lines_cons same] at first
      cases split : lines s <;> simp [split] at first

theorem last_of_lines (last : (lines s).getLast? = some []) : s = [] ∨ s.getLast? = some '\n' := by
  obtain rfl | ⟨front, c, rfl⟩ := List.eq_nil_or_concat s
  · exact .inl rfl
  · rw [List.concat_eq_append] at last ⊢
    by_cases same : c = '\n'
    · exact .inr (by simp [same])
    · obtain ⟨before, line, split⟩ := Filter.lines_append_single front same
      simp [split] at last

theorem lines_append_newline (s : List Char) : lines (s ++ ['\n']) = lines s ++ [[]] :=
  lines_append_newlines (by simp) s

/-- One more empty line does no harm behind lines of which the last one is not empty. -/
theorem Spaced.concat_nil (spaced : Spaced rows) (last : rows.getLast? = some [] → rows = [[]]) :
    Spaced (rows ++ [[]]) := by
  intro gap
  obtain ⟨front, ending⟩ | within := List.infix_concat_iff.mp gap
  · have joined : front ++ [[], []] ++ [[]] = rows ++ [[]] := by simpa using ending
    have split := List.append_cancel_right joined
    have short := congrArg List.length (last (by simp [← split]))
    simp [← split] at short
  · exact spaced within

/-! The result. -/

theorem isFormatted_format (code : List Char) : IsFormatted (format code) := by
  obtain ⟨kept, before, behind, whole, trimmed, rows⟩ := exists_lines_format code
  have inside : lines kept <:+: squeeze 0 (lines code) := ⟨_, _, rows.symm⟩
  have stripped : Stripped (lines kept ++ [[]]) := by
    refine List.forall_mem_append.mpr ⟨fun line member => ?_, by simp⟩
    exact stripped_squeeze 0 (lines code) line (inside.subset member)
  have first (empty : (lines kept).head? = some []) : kept = [] := by
    refine (head_of_lines empty).resolve_right fun newline => ?_
    cases trimmed.first '\n' newline
  have last (empty : (lines kept).getLast? = some []) : kept = [] := by
    refine (last_of_lines empty).resolve_right fun newline => ?_
    cases trimmed.last '\n' newline
  have spaced : Spaced (lines kept) := fun gap =>
    spaced_squeeze 0 (lines code) (gap.trans inside)
  rw [whole]
  refine ⟨⟨kept, rfl, fun newline => ?_⟩, ?_, ?_, ?_⟩
  · cases trimmed.last '\n' newline
  · intro line top blank
    rw [lines_append_newline] at top
    obtain rfl := stripped.eq_nil (List.mem_of_mem_head? top) blank
    obtain ⟨line, more, split⟩ := List.exists_cons_of_ne_nil (Filter.lines_ne_nil kept)
    rw [split] at top
    rw [first (by rwa [split]), List.nil_append]
  · rwa [lines_append_newline]
  · rw [lines_append_newline, ← stripped.spaced_iff]
    exact spaced.concat_nil fun empty => by rw [last empty]; rfl

/-- What is formatted already stays as it is. -/
theorem IsFormatted.format_eq (formed : IsFormatted s) : format s = s := by
  have tidy : tidied s = s := by
    rw [tidied, squeeze_eq_self (Nat.zero_le 2) formed.stripped
      (formed.stripped.spaced_iff.mpr formed.spaced), Filter.unlines_lines]
  obtain ⟨front, rfl, last⟩ := formed.ended
  by_cases none : front = []
  · subst none
    rfl
  · have trimmed : IsTrimmed (· == '\n') front := by
      constructor
      · intro c first
        refine beq_false_of_ne ?_
        rintro rfl
        obtain ⟨rest, rfl⟩ := List.head?_eq_some_iff.mp first
        have alone := formed.start [] (by simp [Filter.lines_newline_cons]) rfl
        simp at alone
      · rintro c ends
        refine beq_false_of_ne ?_
        rintro rfl
        exact last ends
    have newline : ∀ c ∈ ['\n'], (c == '\n') = true := by simp
    rw [Formatting.format_eq, tidy, trimmed.trim_append none newline]

theorem filter_squeeze (count : Nat) (rows : List (List Char)) :
    (squeeze count rows).filter (fun line => !isBlankLine line) =
      (rows.filter fun line => !isBlankLine line).map (trimEnd isBlank) := by
  induction rows generalizing count with
  | nil => rfl
  | cons line rows ih =>
    unfold squeeze
    dsimp only
    by_cases blank : isBlankLine line = true
    · have empty := trimEnd_eq_nil_iff.mpr blank
      rw [List.filter_cons_of_neg (by simpa using blank), empty, List.isEmpty_nil, if_pos rfl]
      split
      · rw [List.filter_cons_of_neg (by simp [isBlankLine]), ih]
      · exact ih (count + 1)
    · have filled : (trimEnd isBlank line).isEmpty = false := by
        simpa [List.isEmpty_iff, trimEnd_eq_nil_iff] using blank
      rw [filled, if_neg (by simp), List.filter_cons_of_pos (by simpa [isBlankLine_trimEnd] using blank),
        List.filter_cons_of_pos (by simpa using blank), List.map_cons, ih]

/-- Formatting loses no line that is not blank. -/
theorem filledLines_format (code : List Char) :
    filledLines (format code) = (filledLines code).map (trimEnd isBlank) := by
  obtain ⟨kept, before, behind, whole, _, rows⟩ := exists_lines_format code
  have blanks (n : Nat) :
      (List.replicate n []).filter (fun line : List Char => !isBlankLine line) = [] := by
    simp [isBlankLine]
  have blank : [[]].filter (fun line : List Char => !isBlankLine line) = [] := blanks 1
  rw [filledLines, filledLines, ← filter_squeeze 0, rows, whole, lines_append_newline]
  simp only [List.filter_append, blanks, blank, List.nil_append, List.append_nil]

end OptionProtocol.Formatting

namespace OptionProtocol

open Formatting (IsFormatted filledLines)

/-- Formatting brings code into its normal form and keeps the lines that are not blank, without the
blanks at their ends. It leaves alone what it made itself, as any code in the normal form and none
other. -/
theorem formatCode_normalForm (code : String) :
    IsFormatted (formatCode code).toList ∧
      filledLines (formatCode code).toList =
        (filledLines code.toList).map (Text.trimEnd Text.isBlank) ∧
      formatCode (formatCode code) = formatCode code ∧
      (formatCode code = code ↔ IsFormatted code.toList) := by
  have formed : IsFormatted (formatCode code).toList := by
    rw [formatCode, Text.over, String.toList_ofList]
    exact Formatting.isFormatted_format code.toList
  have kept {code : String} (formed : IsFormatted code.toList) : formatCode code = code := by
    rw [formatCode, Text.over, formed.format_eq, String.ofList_toList]
  refine ⟨formed, ?_, kept formed, fun same => same ▸ formed, kept⟩
  rw [formatCode, Text.over, String.toList_ofList]
  exact Formatting.filledLines_format code.toList

-- Of blank lines alone one line end is left.
example : formatCode " \n\t\n\n\n" = "\n" := by decide

end OptionProtocol
