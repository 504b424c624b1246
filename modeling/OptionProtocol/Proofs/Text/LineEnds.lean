import OptionProtocol.Text.Basic

/-! Line ends of all kinds. A text is read with each of its line ends as a line feed, so only a text
without carriage returns is read as it is. -/

set_option autoImplicit false

namespace OptionProtocol.Text

variable {s : List Char} {c : Char}

theorem normalizeLineEnds_cons (other : c ≠ '\r') (s : List Char) :
    normalizeLineEnds (c :: s) = c :: normalizeLineEnds s := by
  rw [normalizeLineEnds, if_neg other]
  exact fun _ same => absurd same other

theorem normalizeLineEnds_return (other : s.head? ≠ some '\n') :
    normalizeLineEnds ('\r' :: s) = '\n' :: normalizeLineEnds s := by
  cases s with
  | nil => rfl
  | cons d s =>
    rw [normalizeLineEnds, if_pos rfl]
    rintro rest - same
    exact other (by rw [same]; rfl)

/-- The two halves of a line end are not taken apart. -/
theorem normalizeLineEnds_append (front : List Char) (other : c ≠ '\n') (back : List Char) :
    normalizeLineEnds (front ++ c :: back) =
      normalizeLineEnds front ++ normalizeLineEnds (c :: back) := by
  fun_induction normalizeLineEnds front with
  | case1 => rfl
  | case2 rest ih =>
    simp only [List.cons_append, normalizeLineEnds, ih]
  | case3 d rest apart ih =>
    by_cases return_ : d = '\r'
    · subst return_
      have single : (rest ++ c :: back).head? ≠ some '\n' := by
        cases rest with
        | nil => simpa using other
        | cons e rest =>
          rintro same
          exact apart rest rfl (by simpa using same)
      rw [List.cons_append, normalizeLineEnds_return single, ih]
      rfl
    · rw [List.cons_append, normalizeLineEnds_cons return_, ih, if_neg return_]
      rfl

theorem return_not_mem_normalizeLineEnds (s : List Char) : '\r' ∉ normalizeLineEnds s := by
  fun_induction normalizeLineEnds s with
  | case1 => simp
  | case2 rest ih => simpa using ih
  | case3 c rest apart ih =>
    split
    · simpa using ih
    · rename_i other
      simpa [Ne.symm other] using ih

theorem normalizeLineEnds_eq_self (single : '\r' ∉ s) : normalizeLineEnds s = s := by
  induction s with
  | nil => rfl
  | cons c s ih =>
    rw [List.mem_cons, not_or] at single
    rw [normalizeLineEnds_cons (Ne.symm single.1), ih single.2]

theorem normalizeLineEnds_eq_self_iff (s : List Char) : normalizeLineEnds s = s ↔ '\r' ∉ s :=
  ⟨fun same => same ▸ return_not_mem_normalizeLineEnds s, normalizeLineEnds_eq_self⟩

theorem mem_normalizeLineEnds (member : c ∈ normalizeLineEnds s) : c ∈ s ∨ c = '\n' := by
  fun_induction normalizeLineEnds s with
  | case1 => cases member
  | case2 rest ih => grind
  | case3 d rest apart ih => grind

end OptionProtocol.Text
