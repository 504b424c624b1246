import OptionProtocol.Proofs.Emission.Tidying

/-! Lines that stay as they are. The cleaning leaves together what stands together, as long as none
of the lines is empty or ends with a blank. -/

set_option autoImplicit false

namespace OptionProtocol.Formatting

open OptionProtocol.Filter (lines unlines)
open Text (isBlank trim)

variable {block rows front back : List (List Char)} {s code : List Char}

/-- Each of the lines ends with a character that is not blank. -/
def Ended (rows : List (List Char)) : Prop := ∀ row ∈ rows, ∃ c ∈ row.getLast?, isBlank c = false

theorem Ended.nil_not_mem (ended : Ended rows) : [] ∉ rows := by
  intro member
  obtain ⟨c, last, _⟩ := ended [] member
  cases last

theorem Ended.append (ended : Ended rows) (others : Ended block) : Ended (rows ++ block) :=
  List.forall_mem_append.mpr ⟨ended, others⟩

theorem ended_lines (single : '\n' ∉ s) (kept : ∃ c ∈ s.getLast?, isBlank c = false) :
    Ended (lines s) := by
  rw [Filter.lines_single single]
  exact List.forall_mem_singleton.mpr kept

theorem exists_getLast?_append (front : List Char) (kept : ∃ c ∈ s.getLast?, isBlank c = false) :
    ∃ c ∈ (front ++ s).getLast?, isBlank c = false := by
  obtain ⟨c, last, plain⟩ := kept
  refine ⟨c, ?_, plain⟩
  rw [List.getLast?_append, Option.mem_def.mp last]
  rfl

theorem squeeze_ended (ended : Ended rows) (count : Nat) : squeeze count rows = rows := by
  induction rows generalizing count with
  | nil => rfl
  | cons row rows hyp =>
    obtain ⟨⟨c, last, kept⟩, ended⟩ := List.forall_mem_cons.mp ended
    have whole : Text.trimEnd isBlank row = row := by
      refine Text.trimEnd_eq_self fun d same => ?_
      obtain rfl := Option.mem_unique last same
      exact kept
    rw [squeeze_filled (List.mem_of_getLast? last) kept, hyp ended, whole]

/-- Of lines that are not blank only the ends are cleaned up. -/
theorem squeeze_append_filled (filled : ∀ row ∈ rows, ∃ c ∈ row, isBlank c = false)
    (some : rows ≠ []) (count : Nat) (more : List (List Char)) :
    squeeze count (rows ++ more) = rows.map (Text.trimEnd isBlank) ++ squeeze 0 more := by
  induction rows generalizing count with
  | nil => exact absurd rfl some
  | cons row rows hyp =>
    obtain ⟨⟨c, member, kept⟩, filled⟩ := List.forall_mem_cons.mp filled
    rw [List.cons_append, squeeze_filled member kept, List.map_cons, List.cons_append]
    by_cases last : rows = []
    · simp [last]
    · rw [hyp filled last]

theorem isInfix_squeeze (ended : Ended block) (inside : block <:+: rows) :
    block <:+: squeeze 0 rows := by
  obtain ⟨front, back, rfl⟩ := inside
  obtain ⟨seen, first⟩ := squeeze_append 0 (front ++ block) back
  obtain ⟨count, second⟩ := squeeze_append 0 front block
  rw [first, second, squeeze_ended ended]
  exact ⟨_, _, rfl⟩

/-! Empty lines at both ends. -/

theorem lines_newlines_append (newlines : ∀ c ∈ s, (c == '\n') = true) (rest : List Char) :
    lines (s ++ rest) = List.replicate s.length [] ++ lines rest := by
  induction s with
  | nil => rfl
  | cons c s hyp =>
    obtain ⟨here, others⟩ := List.forall_mem_cons.mp newlines
    obtain rfl := beq_iff_eq.mp here
    rw [List.cons_append, Filter.lines_newline_cons, hyp others]
    rfl

theorem lines_append_newlines (newlines : ∀ c ∈ s, (c == '\n') = true) (front : List Char) :
    lines (front ++ s) = lines front ++ List.replicate s.length [] := by
  cases s with
  | nil => simp
  | cons c s =>
    obtain ⟨here, others⟩ := List.forall_mem_cons.mp newlines
    obtain rfl := beq_iff_eq.mp here
    have rest := lines_newlines_append others []
    rw [List.append_nil] at rest
    rw [Filter.lines_append, rest, List.length_cons, List.replicate_succ']
    rfl

theorem isInfix_of_replicate_append (filled : [] ∉ block) {count : Nat}
    (inside : block <:+: List.replicate count [] ++ rows) : block <:+: rows := by
  induction count with
  | zero => exact inside
  | succ count hyp =>
    have split : block <:+: [] ++ [] :: (List.replicate count [] ++ rows) := inside
    obtain before | behind := isInfix_append_cons filled split
    · rw [List.infix_nil.mp before]
      exact List.nil_infix
    · exact hyp behind

theorem isInfix_of_append_replicate (filled : [] ∉ block) {count : Nat}
    (inside : block <:+: rows ++ List.replicate count []) : block <:+: rows := by
  cases count with
  | zero => simpa using inside
  | succ count =>
    obtain before | behind := isInfix_append_cons filled inside
    · exact before
    · rw [← List.append_nil (List.replicate count [])] at behind
      rw [List.infix_nil.mp (isInfix_of_replicate_append filled behind)]
      exact List.nil_infix

/-- The lines of formatted code are the cleaned ones, without the empty lines at both ends. -/
theorem exists_lines_format (code : List Char) : ∃ kept before behind,
    format code = kept ++ ['\n'] ∧ Text.IsTrimmed (· == '\n') kept ∧
      squeeze 0 (lines code) = List.replicate before [] ++ lines kept ++ List.replicate behind [] := by
  obtain ⟨front, back, whole, fronts, backs⟩ := Text.exists_trim (· == '\n') (tidied code)
  refine ⟨trim (· == '\n') (tidied code), front.length, back.length, rfl,
    Text.isTrimmed_trim _ _, ?_⟩
  have single : ∀ line ∈ squeeze 0 (lines code), '\n' ∉ line := fun line =>
    newline_not_mem_of_mem_squeeze
  rw [← Filter.lines_unlines_of_single (squeeze_ne_nil (Filter.lines_ne_nil code)) single,
    ← tidied, ← lines_newlines_append fronts, ← lines_append_newlines backs, ← whole]

/-- Lines of the code stand together in the formatted code too. -/
theorem isInfix_lines_format (ended : Ended block) (inside : block <:+: lines code) :
    block <:+: lines (format code) := by
  obtain ⟨kept, before, behind, whole, _, rows⟩ := exists_lines_format code
  have cleaned := isInfix_squeeze ended inside
  rw [rows, List.append_assoc] at cleaned
  have alone := isInfix_of_replicate_append ended.nil_not_mem cleaned
  rw [whole, lines_append_newlines (s := ['\n']) (by simp)]
  exact (isInfix_of_append_replicate ended.nil_not_mem alone).trans (List.prefix_append _ _).isInfix

end OptionProtocol.Formatting
