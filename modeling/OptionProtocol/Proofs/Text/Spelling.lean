import OptionProtocol.Proofs.Text.Lowering

/-! Which texts have a plain word for their lower case. Beyond the common characters only two have a
common letter in their lower case, the sign for kelvin and a capital I with a dot, so a word without
a k that does not end with an i has to be spelled in common letters. -/

set_option autoImplicit false

namespace OptionProtocol.Text

namespace LetterCase

/-- The letters of the run are common or lead to characters that are not, except for the sign for
kelvin, which is a run of its own. -/
def Run.isApart (run : Run) : Bool :=
  let low := run.first + run.offset
  let high := run.last + run.offset
  Nat.blt run.last 0x80 || run == ⟨0x212A, 0x212A, 1, -0x20BF⟩ ||
    (decide (0x80 ≤ low) && (decide (high < 0xD800) || decide (0xE000 ≤ low ∧ high < 0x110000)))

theorem isApart_lowerRuns : (lowerRuns.all Run.isApart) = true := by decide +kernel

theorem Run.map?_of_isApart {run : Run} (apart : run.isApart = true) {n image : Nat}
    (rare : 0x80 ≤ n) (found : run.map? n = some image) :
    Char.ofNat image = 'k' ∨ ¬IsCommon (Char.ofNat image) := by
  unfold Run.map? at found
  split at found
  · rename_i inside
    obtain ⟨low, high, _⟩ := inside
    cases found
    simp only [isApart, Bool.or_eq_true, Bool.and_eq_true, decide_eq_true_eq, Nat.blt_eq,
      beq_iff_eq] at apart
    obtain (common | rfl) | ⟨above, valid⟩ := apart
    · omega
    · obtain rfl : n = 0x212A := Nat.le_antisymm high low
      exact .inl (by decide)
    · have code : (n + run.offset).toNat.isValidChar := by
        unfold Nat.isValidChar
        omega
      have same : (Char.ofNat (n + run.offset).toNat).toNat = (n + run.offset).toNat :=
        congrArg Char.toNat (dif_pos code : Char.ofNat _ = Char.ofNatAux _ code)
      refine .inr ?_
      rw [IsCommon, same]
      omega
  · cases found

end LetterCase

open LetterCase in
/-- The lower case of a character that is not common begins with one that is not common either,
with a k, or with an i and its dot. -/
theorem lowerChar_of_not_isCommon {c : Char} (rare : ¬IsCommon c) :
    ∃ d more, lowerChar c = d :: more ∧
      (IsCommon d → d = 'k' ∨ d = 'i' ∧ ∃ e ∈ more.head?, ¬IsCommon e) := by
  have above : ¬c.toNat < 0x80 := rare
  rw [lowerChar, if_neg above]
  cases found : lookup? lowerExpansions lowerRuns c with
  | none => exact ⟨c, [], rfl, fun common => absurd common rare⟩
  | some image =>
    obtain ⟨codes, expanded, rfl⟩ | ⟨run, inside, n, mapped, rfl⟩ := lookup?_cases found
    · obtain ⟨_, rfl⟩ : c.toNat = 0x130 ∧ codes = [0x69, 0x307] := by
        simpa [lowerExpansions] using expanded
      exact ⟨'i', ['\u0307'], rfl, fun _ => .inr ⟨rfl, '\u0307', rfl, by unfold IsCommon; decide⟩⟩
    · have apart := List.all_eq_true.mp isApart_lowerRuns run inside
      obtain kelvin | outside := Run.map?_of_isApart apart (Nat.le_of_not_lt rare) mapped
      · exact ⟨_, [], rfl, fun _ => .inl kelvin⟩
      · exact ⟨_, [], rfl, fun common => absurd common outside⟩

theorem lowerAfter_ne_nil {before : List Char} (c : Char) (rest : List Char) :
    lowerAfter before (c :: rest) ≠ [] := by
  by_cases common : IsCommon c
  · simp [common.lowerAfter_cons]
  · rw [lowerAfter]
    split
    · split <;> simp
    · obtain ⟨d, more, image, _⟩ := lowerChar_of_not_isCommon common
      simp [image]

/-- A word of common letters, without a k and not ending with an i, which no other characters are
lowered to. -/
structure IsPlainWord (word : List Char) : Prop where
  common : ∀ c ∈ word, IsCommon c
  noKelvin : 'k' ∉ word
  noDotted : 'i' ∉ word.getLast?

theorem IsPlainWord.tail {c : Char} {word : List Char} (plain : IsPlainWord (c :: word)) :
    IsPlainWord word where
  common d member := plain.common d (List.mem_cons_of_mem c member)
  noKelvin member := plain.noKelvin (List.mem_cons_of_mem c member)
  noDotted last := by
    obtain ⟨front, rfl⟩ := List.getLast?_eq_some_iff.mp last
    exact plain.noDotted (by rw [← List.cons_append, List.getLast?_concat]; rfl)

/-- A text whose lower case begins with a plain word begins with that word in some case. -/
theorem exists_front_of_lowerAfter {before s word more : List Char} (plain : IsPlainWord word)
    (lowered : lowerAfter before s = word ++ more) :
    ∃ front back outer, s = front ++ back ∧ front.map Char.toLower = word ∧
      lowerAfter outer back = more := by
  induction word generalizing before s with
  | nil => exact ⟨[], s, before, rfl, rfl, lowered⟩
  | cons letter word ih =>
    cases s with
    | nil => cases lowered
    | cons c rest =>
      have letterCommon := plain.common letter List.mem_cons_self
      by_cases common : IsCommon c
      · rw [common.lowerAfter_cons, List.cons_append] at lowered
        obtain ⟨same, lowered⟩ := List.cons.inj lowered
        obtain ⟨front, back, outer, rfl, spelled, left⟩ := ih plain.tail lowered
        exact ⟨c :: front, back, outer, rfl, by rw [List.map_cons, same, spelled], left⟩
      · exfalso
        rw [lowerAfter] at lowered
        split at lowered
        · have forms : ¬IsCommon 'ς' ∧ ¬IsCommon 'σ' := by unfold IsCommon; decide
          split at lowered <;> obtain ⟨rfl, _⟩ := List.cons.inj lowered
          · exact forms.1 letterCommon
          · exact forms.2 letterCommon
        · obtain ⟨d, image, begins, which⟩ := lowerChar_of_not_isCommon common
          rw [begins, List.cons_append, List.cons_append] at lowered
          obtain ⟨rfl, behind⟩ := List.cons.inj lowered
          obtain rfl | ⟨rfl, dot, first, rare⟩ := which letterCommon
          · exact plain.noKelvin List.mem_cons_self
          · obtain ⟨image, rfl⟩ := List.head?_eq_some_iff.mp first
            -- The word goes on behind the i, but not with a dot.
            cases word with
            | nil => exact plain.noDotted rfl
            | cons next word =>
              obtain ⟨rfl, _⟩ := List.cons.inj behind
              exact rare (plain.common dot (by simp))

theorem isCommon_of_toLower {c : Char} (common : IsCommon c.toLower) : IsCommon c := by
  unfold Char.toLower at common
  split at common
  · rename_i upper
    exact .of_le (UInt32.le_iff_toNat_le.mpr upper.2) (by unfold IsCommon; decide : IsCommon 'Z')
  · exact common

theorem lowerAfter_append {before front : List Char} (common : ∀ c ∈ front, IsCommon c)
    (back : List Char) :
    lowerAfter before (front ++ back) =
      front.map Char.toLower ++ lowerAfter (front.reverse ++ before) back := by
  induction front generalizing before with
  | nil => rfl
  | cons c front ih =>
    obtain ⟨here, common⟩ := List.forall_mem_cons.mp common
    rw [List.cons_append, here.lowerAfter_cons, ih common]
    simp

/-- A text whose lower case is a plain word is that word in some case. -/
theorem map_toLower_of_lower {s word : List Char} (plain : IsPlainWord word)
    (lowered : lower s = word) : s.map Char.toLower = word := by
  have whole : lowerAfter [] s = word ++ [] := lowered.trans (List.append_nil word).symm
  obtain ⟨front, back, outer, rfl, spelled, left⟩ := exists_front_of_lowerAfter plain whole
  cases back with
  | nil => rw [List.append_nil, spelled]
  | cons c back => exact absurd left (lowerAfter_ne_nil c back)

end OptionProtocol.Text
