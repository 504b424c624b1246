import OptionProtocol.Proofs.Text.LetterCase

/-! Lower case is final: a text in lower case stays as it is when it is lowered once more. No run
of letters leads into a run again, which the ends of the runs and their strides tell. -/

set_option autoImplicit false

namespace OptionProtocol.Text

namespace LetterCase

/-- The images of the run are no letters of the other one: they lie apart from it, or they fall
between its letters. -/
def Run.misses (run other : Run) : Bool :=
  let low := (run.first + run.offset).toNat
  let high := (run.last + run.offset).toNat
  Nat.blt high other.first || (Nat.blt other.last low ||
    (other.stride == 2 && (run.stride == 2 || run.first == run.last) &&
      (low + other.first) % 2 == 1))

theorem Run.map?_eq_none_of_misses {run other : Run} (missed : run.misses other = true)
    (natural : 0 ≤ run.first + run.offset) {n image : Nat} (found : run.map? n = some image) :
    other.map? image = none := by
  unfold Run.map? at found ⊢
  split at found
  · rename_i inside
    obtain ⟨low, high, step⟩ := inside
    cases found
    rw [if_neg]
    rintro ⟨otherLow, otherHigh, otherStep⟩
    simp only [misses, Nat.blt_eq, Bool.or_eq_true, Bool.and_eq_true, beq_iff_eq] at missed
    obtain behind | before | ⟨⟨otherStride, stride⟩, odd⟩ := missed
    · omega
    · omega
    -- Both step by two, from ends of different parity.
    · rw [otherStride] at otherStep
      rcases stride with stride | single
      · rw [stride] at step
        omega
      · omega
  · cases found

theorem misses_lowerRuns : (lowerRuns.all fun run => lowerRuns.all run.misses) = true := by
  decide +kernel

theorem natural_lowerRuns : ∀ run ∈ lowerRuns, 0 ≤ run.first + run.offset := by
  decide +kernel

variable {run other : Run} {n image : Nat}

theorem Run.map?_image (inside : run ∈ lowerRuns) (otherInside : other ∈ lowerRuns)
    (found : run.map? n = some image) : other.map? image = none := by
  have missed := List.all_eq_true.mp (List.all_eq_true.mp misses_lowerRuns run inside)
  exact map?_eq_none_of_misses (missed other otherInside) (natural_lowerRuns run inside) found

-- An expanded letter stands alone, like a run of its own.
theorem Run.lookup_image (inside : run ∈ lowerRuns) (found : run.map? n = some image) :
    lowerExpansions.lookup image = none := by
  have table : ∀ run ∈ lowerRuns, ∀ entry ∈ lowerExpansions,
      run.misses ⟨entry.1, entry.1, 1, 0⟩ = true := by decide +kernel
  rw [List.lookup_eq_none_iff]
  intro entry member
  have unmapped := map?_eq_none_of_misses (table run inside entry member)
    (natural_lowerRuns run inside) found
  rw [bne_iff_ne]
  rintro rfl
  simp [map?] at unmapped

end LetterCase

/-- Lowering leaves the character alone. The capital sigma has two forms, of which the place in
the word decides. -/
def IsLowered (c : Char) : Prop := c ≠ 'Σ' ∧ lowerChar c = [c]

instance (c : Char) : Decidable (IsLowered c) := inferInstanceAs (Decidable (_ ∧ _))

open LetterCase in
theorem isLowered_of_unmapped {c : Char} (noRun : ∀ run ∈ lowerRuns, run.map? c.toNat = none)
    (noExpansion : lowerExpansions.lookup c.toNat = none) : IsLowered c := by
  constructor
  · rintro rfl
    exact absurd (noRun ⟨0x3A3, 0x3AB, 1, 32⟩ (by decide +kernel)) (by decide +kernel)
  · unfold lowerChar
    split
    · rename_i common
      have table : ∀ n < 0x80, (Run.map? ⟨0x41, 0x5A, 1, 32⟩ (Char.ofNat n).toNat) = none →
          [(Char.ofNat n).toLower] = [Char.ofNat n] := by decide +kernel
      exact IsCommon.forall_of_table (c := c)
        (p := fun c => Run.map? ⟨0x41, 0x5A, 1, 32⟩ c.toNat = none → [c.toLower] = [c])
        table common (noRun _ (by decide +kernel))
    · have unmapped : lowerRuns.findSome? (·.map? c.toNat) = none :=
        List.findSome?_eq_none_iff.mpr noRun
      simp [lookup?, noExpansion, unmapped]

theorem toNat_ofNat_cases (n : Nat) : (Char.ofNat n).toNat = n ∨ (Char.ofNat n).toNat = 0 := by
  by_cases valid : n.isValidChar
  · exact .inl (congrArg Char.toNat (dif_pos valid : Char.ofNat n = Char.ofNatAux n valid))
  · exact .inr (congrArg Char.toNat (dif_neg valid : Char.ofNat n = _))

open LetterCase in
theorem isLowered_of_map? {run : Run} (inside : run ∈ lowerRuns) {n image : Nat}
    (found : run.map? n = some image) : IsLowered (Char.ofNat image) := by
  rcases toNat_ofNat_cases image with same | zero
  · refine isLowered_of_unmapped (fun other member => ?_) ?_
    · rw [same]
      exact Run.map?_image inside member found
    · rw [same]
      exact Run.lookup_image inside found
  · exact isLowered_of_unmapped (by rw [zero]; decide +kernel) (by rw [zero]; decide +kernel)

open LetterCase in
/-- What a character is lowered to is lowered already. -/
theorem isLowered_of_mem_lowerChar {c d : Char} (member : d ∈ lowerChar c) : IsLowered d := by
  unfold lowerChar at member
  split at member
  · rename_i common
    have table : ∀ n < 0x80, IsLowered (Char.ofNat n).toLower := by decide +kernel
    obtain rfl := List.mem_singleton.mp member
    exact IsCommon.forall_of_table (p := fun c => IsLowered c.toLower) table common
  · rename_i rare
    cases found : lookup? lowerExpansions lowerRuns c with
    | some image =>
      simp only [found, Option.getD_some] at member
      obtain ⟨codes, expanded, rfl⟩ | ⟨run, inside, n, mapped, rfl⟩ := lookup?_cases found
      · have table : (lowerExpansions.all fun entry =>
            entry.2.all fun code => IsLowered (Char.ofNat code)) = true := by decide +kernel
        simp only [List.all_eq_true, decide_eq_true_eq] at table
        obtain ⟨code, listed, rfl⟩ := List.mem_map.mp member
        exact table (c.toNat, codes) expanded code listed
      · exact List.mem_singleton.mp member ▸ isLowered_of_map? inside mapped
    | none =>
      obtain rfl : d = c := by simpa [found] using member
      refine ⟨?_, by simp [lowerChar, rare, found]⟩
      rintro rfl
      exact absurd found (by decide +kernel)

theorem isLowered_of_mem_lowerAfter {before s : List Char} {d : Char}
    (member : d ∈ lowerAfter before s) : IsLowered d := by
  have forms : IsLowered 'ς' ∧ IsLowered 'σ' := by decide +kernel
  obtain rfl | rfl | ⟨c, _, image⟩ := mem_lowerAfter member
  · exact forms.1
  · exact forms.2
  · exact isLowered_of_mem_lowerChar image

theorem lowerAfter_eq_self {before s : List Char} (all : ∀ c ∈ s, IsLowered c) :
    lowerAfter before s = s := by
  induction s generalizing before with
  | nil => rfl
  | cons c rest ih =>
    obtain ⟨here, later⟩ := List.forall_mem_cons.mp all
    rw [lowerAfter, if_neg here.1, here.2, ih later]
    rfl

/-- Lowering a text twice is lowering it once. -/
theorem lowered_lowered (text : String) : lowered (lowered text) = lowered text := by
  unfold lowered lower
  rw [String.toList_ofList, lowerAfter_eq_self fun c => isLowered_of_mem_lowerAfter]

end OptionProtocol.Text
