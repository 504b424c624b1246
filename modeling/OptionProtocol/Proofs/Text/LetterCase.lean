import OptionProtocol.Proofs.Table
import OptionProtocol.Text.LetterCase

/-! Upper and lower case of the common characters, letter by letter, and the slash, which no
other character has for its lower case. -/

set_option autoImplicit false

namespace OptionProtocol.Text

theorem isAlpha_of_isLower {c : Char} (small : c.isLower = true) : c.isAlpha = true :=
  Bool.or_eq_true_iff.mpr (.inr small)

/-- One of the first 128 characters. -/
def IsCommon (c : Char) : Prop := c.toNat < 0x80

namespace IsCommon

variable {c : Char}

/-- What holds of the first 128 characters, one by one, holds of every common character. -/
theorem forall_of_table {p : Char → Prop} (table : ∀ n < 0x80, p (Char.ofNat n))
    (common : IsCommon c) : p c := by
  have here := table c.toNat common
  rwa [Char.ofNat_toNat] at here

theorem of_le {bound : Char} (below : c.val ≤ bound.val) (common : IsCommon bound) :
    IsCommon c :=
  Nat.lt_of_le_of_lt (UInt32.le_iff_toNat_le.mp below) common

theorem of_isAlphanum (alphanum : c.isAlphanum = true) : IsCommon c := by
  rcases Bool.or_eq_true_iff.mp alphanum with alpha | digit
  · rcases Bool.or_eq_true_iff.mp alpha with upper | lower
    · exact of_le (of_decide_eq_true upper).2 (by decide : 'Z'.toNat < 0x80)
    · have below : c.val ≤ 'z'.val := of_decide_eq_true (Bool.and_eq_true_iff.mp lower).2
      exact of_le below (by decide : 'z'.toNat < 0x80)
  · have below : c.val ≤ '9'.val := of_decide_eq_true (Bool.and_eq_true_iff.mp digit).2
    exact of_le below (by decide : '9'.toNat < 0x80)

theorem of_isLower (small : c.isLower = true) : IsCommon c :=
  of_isAlphanum (by simp [Char.isAlphanum, isAlpha_of_isLower small])

theorem ne_sigma (common : IsCommon c) : c ≠ 'Σ' := by
  rintro rfl
  exact absurd common (by unfold IsCommon; decide)

theorem lowerChar (common : IsCommon c) : lowerChar c = [c.toLower] := if_pos common

theorem upperChar (common : IsCommon c) : upperChar c = [c.toUpper] := if_pos common

theorem lowerAfter_cons (common : IsCommon c) (before rest : List Char) :
    lowerAfter before (c :: rest) = c.toLower :: lowerAfter (c :: before) rest := by
  rw [lowerAfter, if_neg common.ne_sigma, common.lowerChar]
  rfl

end IsCommon

theorem not_isDigit_of_isAlpha {c : Char} (alpha : c.isAlpha = true) : c.isDigit = false := by
  have common : IsCommon c := .of_isAlphanum (by simp [Char.isAlphanum, alpha])
  have table : ∀ n < 0x80, (Char.ofNat n).isAlpha = true → (Char.ofNat n).isDigit = false := by
    decide +kernel
  exact common.forall_of_table (p := fun c => c.isAlpha = true → c.isDigit = false) table alpha

theorem map_eq_self {f : Char → Char} {s : List Char} (same : ∀ c ∈ s, f c = c) : s.map f = s :=
  (List.map_congr_left same).trans (List.map_id s)

theorem lowerAfter_common {before s : List Char} (common : ∀ c ∈ s, IsCommon c) :
    lowerAfter before s = s.map Char.toLower := by
  induction s generalizing before with
  | nil => rfl
  | cons c rest ih =>
    rw [(common c List.mem_cons_self).lowerAfter_cons,
      ih fun d member => common d (List.mem_cons_of_mem _ member)]
    rfl

theorem lower_common {s : List Char} (common : ∀ c ∈ s, IsCommon c) :
    lower s = s.map Char.toLower :=
  lowerAfter_common common

theorem upper_common {s : List Char} (common : ∀ c ∈ s, IsCommon c) :
    upper s = s.map Char.toUpper := by
  induction s with
  | nil => rfl
  | cons c rest ih =>
    rw [upper] at ih ⊢
    rw [List.flatMap_cons, (common c List.mem_cons_self).upperChar,
      ih fun d member => common d (List.mem_cons_of_mem _ member)]
    rfl

theorem capitalize_common {c : Char} {rest : List Char} (common : ∀ d ∈ c :: rest, IsCommon d) :
    capitalize (c :: rest) = c.toUpper :: rest.map Char.toLower := by
  obtain ⟨first, others⟩ := List.forall_mem_cons.mp common
  have title : titleChar c = [c.toUpper] := if_pos first
  rw [capitalize, title, lowerAfter_common others]
  rfl

theorem upper_digits {s : List Char} (digits : ∀ c ∈ s, c.isDigit = true) : upper s = s := by
  have common (c : Char) (member : c ∈ s) : IsCommon c :=
    .of_isAlphanum (by simp [Char.isAlphanum, digits c member])
  have table : ∀ n < 0x80, (Char.ofNat n).isDigit = true →
      (Char.ofNat n).toUpper = Char.ofNat n := by decide +kernel
  rw [upper_common common]
  refine map_eq_self fun c member => ?_
  exact (common c member).forall_of_table (p := fun c => c.isDigit = true → c.toUpper = c) table
    (digits c member)

theorem LetterCase.Run.le_of_map? {run : Run} {n image : Nat} (found : run.map? n = some image) :
    run.first + run.offset ≤ image := by
  unfold Run.map? at found
  split at found
  · cases found
    omega
  · cases found

theorem eq_slash_of_ofNat {n : Nat} (same : Char.ofNat n = '/') : n = 0x2F := by
  by_cases valid : n.isValidChar
  · exact congrArg Char.toNat ((dif_pos valid).symm.trans same)
  · exact absurd ((dif_neg valid).symm.trans same) (by decide)

/-- The image of a letter is its expansion, or one run has it. -/
theorem LetterCase.lookup?_cases {expansions : Expansions} {runs : List Run} {c : Char}
    {image : List Char} (found : lookup? expansions runs c = some image) :
    (∃ codes, (c.toNat, codes) ∈ expansions ∧ image = codes.map Char.ofNat) ∨
      ∃ run ∈ runs, ∃ n, run.map? c.toNat = some n ∧ image = [Char.ofNat n] := by
  unfold lookup? at found
  split at found
  · rename_i codes expanded
    cases found
    exact .inl ⟨codes, Table.mem_of_lookup expanded, rfl⟩
  · obtain ⟨n, mapped, rfl⟩ := Option.map_eq_some_iff.mp found
    obtain ⟨run, inside, mapped⟩ := List.exists_of_findSome?_eq_some mapped
    exact .inr ⟨run, inside, n, mapped, rfl⟩

open LetterCase in
theorem slash_not_mem_of_lookup? {c : Char} {image : List Char}
    (found : lookup? lowerExpansions lowerRuns c = some image) : '/' ∉ image := by
  obtain ⟨codes, expanded, rfl⟩ | ⟨run, inside, n, mapped, rfl⟩ := lookup?_cases found
  · have table : ∀ entry ∈ lowerExpansions, '/' ∉ entry.2.map Char.ofNat := by decide +kernel
    exact table (c.toNat, codes) expanded
  · have table : ∀ run ∈ lowerRuns, 0x30 ≤ run.first + run.offset := by decide +kernel
    have high := Int.le_trans (table run inside) (run.le_of_map? mapped)
    intro member
    have low := eq_slash_of_ofNat (List.mem_singleton.mp member).symm
    omega

open LetterCase in
/-- No other character has a slash in its lower case. -/
theorem eq_slash_of_mem_lowerChar {c : Char} (member : '/' ∈ lowerChar c) : c = '/' := by
  unfold lowerChar at member
  split at member
  · rename_i common
    have table : ∀ n < 0x80, '/' ∈ [(Char.ofNat n).toLower] → Char.ofNat n = '/' := by
      decide +kernel
    exact IsCommon.forall_of_table (p := fun c => '/' ∈ [c.toLower] → c = '/') table common member
  · cases found : lookup? lowerExpansions lowerRuns c with
    | none => simpa [found, eq_comm] using member
    | some image => exact absurd (by simpa [found] using member) (slash_not_mem_of_lookup? found)

/-- A lowered text is made of the lower cases of its characters, and of sigmas. -/
theorem mem_lowerAfter {before s : List Char} {d : Char} (member : d ∈ lowerAfter before s) :
    d = 'ς' ∨ d = 'σ' ∨ ∃ c ∈ s, d ∈ lowerChar c := by
  induction s generalizing before with
  | nil => cases member
  | cons c rest ih =>
    rw [lowerAfter, List.mem_append] at member
    obtain here | later := member
    · split at here
      · split at here
        · exact .inl (List.mem_singleton.mp here)
        · exact .inr (.inl (List.mem_singleton.mp here))
      · exact .inr (.inr ⟨c, List.mem_cons_self, here⟩)
    · obtain final | medial | ⟨e, inside, image⟩ := ih later
      · exact .inl final
      · exact .inr (.inl medial)
      · exact .inr (.inr ⟨e, List.mem_cons_of_mem _ inside, image⟩)

theorem slash_mem_of_lowerAfter {before s : List Char} (member : '/' ∈ lowerAfter before s) :
    '/' ∈ s := by
  obtain final | medial | ⟨c, inside, image⟩ := mem_lowerAfter member
  · exact absurd final (by decide)
  · exact absurd medial (by decide)
  · exact eq_slash_of_mem_lowerChar image ▸ inside

end OptionProtocol.Text
