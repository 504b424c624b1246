import OptionProtocol.Proofs.Text.LineEnds
import OptionProtocol.Proofs.Text.Lines

/-! Lines of a source as they are read, where carriage returns are line ends too. Text that stands
behind a comment mark has to go on with one wherever such a line end is inside. -/

set_option autoImplicit false

namespace OptionProtocol.Text

variable {s row : List Char} {c : Char}

/-- A character in front of the first line. -/
def onFirst (c : Char) : List (List Char) → List (List Char)
  | [] => [[c]]
  | line :: more => (c :: line) :: more

/-- The lines of a source. A line feed, a carriage return or both together end a line. -/
def physicalLines : List Char → List (List Char)
  | [] => []
  | '\r' :: '\n' :: rest => [] :: physicalLines rest
  | c :: rest =>
      if c = '\n' ∨ c = '\r' then [] :: physicalLines rest else onFirst c (physicalLines rest)

theorem physicalLines_newline (s : List Char) :
    physicalLines ('\n' :: s) = [] :: physicalLines s := by
  simp [physicalLines]

theorem physicalLines_return (other : s.head? ≠ some '\n') :
    physicalLines ('\r' :: s) = [] :: physicalLines s := by
  rw [physicalLines, if_pos (.inr rfl)]
  rintro rest - rfl
  exact other rfl

theorem physicalLines_cons (line : c ≠ '\n') (return_ : c ≠ '\r') (s : List Char) :
    physicalLines (c :: s) = onFirst c (physicalLines s) := by
  rw [physicalLines, if_neg (by simp [line, return_])]
  exact fun _ same => absurd same return_

/-- It makes no difference whether all line ends are made line feeds before. -/
theorem physicalLines_normalizeLineEnds (s : List Char) :
    physicalLines (normalizeLineEnds s) = physicalLines s := by
  induction s using physicalLines.induct with
  | case1 => rfl
  | case2 s hyp => rw [normalizeLineEnds, physicalLines_newline, hyp, physicalLines]
  | case3 c s apart ended hyp =>
    have other : c = '\r' → s.head? ≠ some '\n' := by
      intro return_ first
      obtain ⟨more, rfl⟩ := List.head?_eq_some_iff.mp first
      exact apart more return_ rfl
    obtain rfl | rfl := ended
    · rw [normalizeLineEnds_cons (by decide), physicalLines_newline, physicalLines_newline, hyp]
    · rw [normalizeLineEnds_return (other rfl), physicalLines_newline,
        physicalLines_return (other rfl), hyp]
  | case4 c s apart other hyp =>
    rw [not_or] at other
    rw [normalizeLineEnds_cons other.2, physicalLines_cons other.1 other.2,
      physicalLines_cons other.1 other.2, hyp]

/-- There is a first line, and it is a comment just if the source begins with one. -/
theorem exists_physicalLines (c : Char) (s : List Char) :
    ∃ line more, physicalLines (c :: s) = line :: more ∧ (line.head? = some '#' ↔ c = '#') := by
  by_cases feed : c = '\n'
  · subst feed
    exact ⟨[], _, physicalLines_newline s, by decide⟩
  by_cases return_ : c = '\r'
  · subst return_
    by_cases fed : s.head? = some '\n'
    · obtain ⟨s, rfl⟩ := List.head?_eq_some_iff.mp fed
      exact ⟨[], physicalLines s, rfl, by decide⟩
    · exact ⟨[], _, physicalLines_return fed, by decide⟩
  · rw [physicalLines_cons feed return_]
    cases physicalLines s with
    | nil => exact ⟨[c], [], rfl, by simp⟩
    | cons line more => exact ⟨c :: line, more, rfl, by simp⟩

theorem onFirst_append {rows : List (List Char)} (some : rows ≠ []) (c : Char)
    (more : List (List Char)) : onFirst c (rows ++ more) = onFirst c rows ++ more := by
  obtain ⟨line, rows, rfl⟩ := List.exists_cons_of_ne_nil some
  rfl

theorem physicalLines_single (filled : s ≠ []) (single : '\n' ∉ s ∧ '\r' ∉ s) :
    physicalLines s = [s] := by
  induction s with
  | nil => exact absurd rfl filled
  | cons c s hyp =>
    simp only [List.mem_cons, not_or] at single
    obtain ⟨⟨feed, feeds⟩, return_, returns⟩ := single
    rw [physicalLines_cons (Ne.symm feed) (Ne.symm return_)]
    by_cases last : s = []
    · rw [last]
      rfl
    · rw [hyp last ⟨feeds, returns⟩]
      rfl

/-- A line feed ends what stands before it, together with a carriage return at its end. -/
theorem physicalLines_append (filled : s ≠ []) (last : s.getLast? ≠ some '\n') (rest : List Char) :
    physicalLines (s ++ '\n' :: rest) = physicalLines s ++ physicalLines rest := by
  induction s using physicalLines.induct with
  | case1 => exact absurd rfl filled
  | case2 s hyp =>
    cases s with
    | nil => exact absurd rfl last
    | cons d s =>
      have more := hyp (by simp) (by simpa [List.getLast?_cons_cons] using last)
      simp only [List.cons_append, physicalLines] at more ⊢
      rw [more]
  | case3 c s apart ended hyp =>
    cases s with
    | nil =>
      obtain rfl | rfl := ended
      · exact absurd rfl last
      · rfl
    | cons d s =>
      have more := hyp (by simp) (by simpa [List.getLast?_cons_cons] using last)
      have other : c = '\r' → (d :: s).head? ≠ some '\n' := fun return_ first =>
        apart s return_ (by simpa using first)
      obtain rfl | rfl := ended
      · rw [List.cons_append, physicalLines_newline, physicalLines_newline, more, List.cons_append]
      · rw [List.cons_append, physicalLines_return (by simpa using other rfl),
          physicalLines_return (other rfl), more, List.cons_append]
  | case4 c s apart other hyp =>
    rw [not_or] at other
    cases s with
    | nil =>
      rw [List.singleton_append, physicalLines_cons other.1 other.2,
        physicalLines_cons other.1 other.2, physicalLines_newline]
      rfl
    | cons d s =>
      have more := hyp (by simp) (by simpa [List.getLast?_cons_cons] using last)
      obtain ⟨line, rows, split, _⟩ := exists_physicalLines d s
      rw [List.cons_append, physicalLines_cons other.1 other.2, more,
        physicalLines_cons other.1 other.2, onFirst_append (by simp [split])]

/-- Every line of the source is a comment. -/
def IsCommented (s : List Char) : Prop := ∀ line ∈ physicalLines s, line.head? = some '#'

/-- Behind every carriage return there is a comment or nothing. -/
def ReturnsCommented (s : List Char) : Prop :=
  ∀ front back, s = front ++ '\r' :: back → back = [] ∨ back.head? = some '#'

theorem returnsCommented_nil : ReturnsCommented [] := by simp [ReturnsCommented]

theorem returnsCommented_cons (c : Char) (s : List Char) : ReturnsCommented (c :: s) ↔
    (c = '\r' → s = [] ∨ s.head? = some '#') ∧ ReturnsCommented s := by
  constructor
  · intro commented
    refine ⟨?_, fun front back whole => commented (c :: front) back (by rw [whole]; rfl)⟩
    rintro rfl
    exact commented [] s rfl
  · rintro ⟨first, commented⟩ front back whole
    cases front with
    | nil =>
      obtain ⟨return_, rfl⟩ := List.cons.inj whole
      exact first return_
    | cons d front => exact commented front back (List.cons.inj whole).2

def decideReturnsCommented : (s : List Char) → Decidable (ReturnsCommented s)
  | [] => .isTrue returnsCommented_nil
  | c :: s =>
      have := decideReturnsCommented s
      decidable_of_iff _ (returnsCommented_cons c s).symm

instance : DecidablePred ReturnsCommented := decideReturnsCommented

theorem tail_onFirst (c : Char) (rows : List (List Char)) : (onFirst c rows).tail = rows.tail := by
  cases rows <;> rfl

theorem isCommented_iff_tail (s : List Char) : IsCommented s ↔
    (s = [] ∨ s.head? = some '#') ∧ ∀ line ∈ (physicalLines s).tail, line.head? = some '#' := by
  cases s with
  | nil => simp [IsCommented, physicalLines]
  | cons c s =>
    obtain ⟨line, more, split, first⟩ := exists_physicalLines c s
    simp [IsCommented, split, first]

/-- In a text without line feeds carriage returns begin all lines but the first one. -/
theorem tail_commented_iff (single : '\n' ∉ s) :
    (∀ line ∈ (physicalLines s).tail, line.head? = some '#') ↔ ReturnsCommented s := by
  induction s with
  | nil => simp [physicalLines, returnsCommented_nil]
  | cons c s hyp =>
    rw [List.mem_cons, not_or] at single
    obtain ⟨here, single⟩ := single
    by_cases return_ : c = '\r'
    · subst return_
      have other : s.head? ≠ some '\n' := fun first => single (List.mem_of_head? first)
      rw [physicalLines_return other, List.tail_cons, ← IsCommented, isCommented_iff_tail,
        returnsCommented_cons, hyp single]
      simp
    · rw [physicalLines_cons (Ne.symm here) return_, tail_onFirst, returnsCommented_cons,
        hyp single]
      simp [return_]

/-- Lines with line feeds between them are comments just if each of them is. -/
theorem isCommented_unlines {rows : List (List Char)} (filled : [] ∉ rows)
    (single : ∀ row ∈ rows, '\n' ∉ row) :
    IsCommented (Filter.unlines rows) ↔ ∀ row ∈ rows, IsCommented row := by
  induction rows with
  | nil => simp [IsCommented, Filter.unlines, joinWith, physicalLines]
  | cons row rows hyp =>
    rw [List.mem_cons, not_or] at filled
    obtain ⟨alone, others⟩ := List.forall_mem_cons.mp single
    by_cases last : rows = []
    · simp [last, Filter.unlines, joinWith]
    · rw [List.forall_mem_cons, ← hyp filled.2 others, Filter.unlines_cons row last]
      have ended : row.getLast? ≠ some '\n' := fun same => alone (List.mem_of_getLast? same)
      simp only [IsCommented, physicalLines_append (Ne.symm filled.1) ended, List.forall_mem_append]

/-- A line that begins with a comment goes on with one. -/
theorem isCommented_mark_iff (single : '\n' ∉ s) : IsCommented ('#' :: s) ↔ ReturnsCommented s := by
  rw [isCommented_iff_tail, physicalLines_cons (by decide) (by decide), tail_onFirst,
    tail_commented_iff single]
  simp

end OptionProtocol.Text
