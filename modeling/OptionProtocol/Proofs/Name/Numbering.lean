import Mathlib.Data.Finset.Card
import OptionProtocol.Name.Sanitizer
import OptionProtocol.Proofs.Number

/-! Numbered names. Counting up from a name comes to one that is free, since the names in use
are finitely many and different numbers make different names. -/

set_option autoImplicit false

namespace OptionProtocol.Sanitizer

/-- What stands behind a name with the number. -/
def numeral (n : Nat) : List Char := if n = 0 then [] else Nat.toDigits 10 n

theorem toList_numbered (name : String) (n : Nat) :
    (numbered name n).toList = name.toList ++ numeral n := by
  by_cases zero : n = 0
  · simp [numbered, numeral, zero]
  · simp [numbered, numeral, zero, Number.intText]

theorem numeral_ne_nil {n : Nat} (positive : n ≠ 0) : numeral n ≠ [] := by
  rw [numeral, if_neg positive]
  exact Nat.toDigits_ne_nil

theorem isDigit_of_mem_numeral {n : Nat} {c : Char} (member : c ∈ numeral n) :
    c.isDigit = true := by
  unfold numeral at member
  split at member
  · cases member
  · exact Number.isDigit_of_mem_toDigits member

theorem toDigits_injective : Function.Injective (Nat.toDigits 10) := by
  intro n m same
  rw [← Nat.ofDigitChars_ten_toDigits (n := n), same, Nat.ofDigitChars_ten_toDigits]

theorem numeral_injective : Function.Injective numeral := by
  intro n m same
  unfold numeral at same
  split_ifs at same with zeroN zeroM zeroM
  · rw [zeroN, zeroM]
  · exact absurd same.symm Nat.toDigits_ne_nil
  · exact absurd same Nat.toDigits_ne_nil
  · exact toDigits_injective same

theorem injective_of_numeral {form : Nat → String} (before after : List Char)
    (spelled : ∀ n, (form n).toList = before ++ numeral n ++ after) :
    Function.Injective form := by
  intro n m same
  have chars : before ++ numeral n ++ after = before ++ numeral m ++ after := by
    rw [← spelled, ← spelled, same]
  simpa using numeral_injective (by simpa using chars)

/-- Counting up from a number comes to the first numbered name that is free. -/
inductive CountsTo (isFree : String → Prop) (name : String) : Nat → String → Prop where
  | stop {n : Nat} (free : isFree (numbered name n)) : CountsTo isFree name n (numbered name n)
  | next {n : Nat} {chosen : String} (held : ¬isFree (numbered name n))
      (later : CountsTo isFree name (n + 1) chosen) : CountsTo isFree name n chosen

namespace CountsTo

variable {isFree : String → Prop} {name chosen : String} {n : Nat}

theorem free (counted : CountsTo isFree name n chosen) : isFree chosen := by
  induction counted with
  | stop free => exact free
  | next _ _ ih => exact ih

theorem exists_numbered (counted : CountsTo isFree name n chosen) :
    ∃ m, chosen = numbered name m := by
  induction counted with
  | @stop n _ => exact ⟨n, rfl⟩
  | next _ _ ih => exact ih

theorem unique {other : String} (counted : CountsTo isFree name n chosen)
    (again : CountsTo isFree name n other) : chosen = other := by
  induction counted with
  | stop free =>
    cases again with
    | stop => rfl
    | next held => exact absurd free held
  | next held _ ih =>
    cases again with
    | stop free => exact absurd free held
    | next _ later => exact ih later

theorem of_least {m : Nat} (reached : n ≤ m) (free : isFree (numbered name m))
    (held : ∀ k, n ≤ k → k < m → ¬isFree (numbered name k)) :
    CountsTo isFree name n (numbered name m) := by
  induction reached using Nat.decreasingInduction with
  | self => exact .stop free
  | of_succ k small ih =>
    refine .next (held k (Nat.le_refl k) small) (ih fun l above below => ?_)
    exact held l (by omega) below

end CountsTo

/-- A search through enough numbers is the count. -/
theorem countsTo_find? (isFree : String → Bool) (name other : String) {bound : Nat}
    (free : ∃ n < bound, isFree (numbered name n) = true) :
    CountsTo (isFree · = true) name 0
      ((((List.range bound).map (numbered name)).find? isFree).getD other) := by
  obtain ⟨m, small, here⟩ := free
  rw [List.find?_map]
  cases found : (List.range bound).find? (isFree ∘ numbered name) with
  | none =>
    rw [List.find?_range_eq_none] at found
    exact absurd here (by simpa using found m small)
  | some n =>
    obtain ⟨here, _, held⟩ := List.find?_range_eq_some.mp found
    refine .of_least (Nat.zero_le n) here fun k _ below => ?_
    simpa using held k below

section Pigeonhole

variable {forms : List (Nat → String)} (taken : List String)

/-- Each form meets a taken name for at most as many numbers as there are taken names. -/
theorem card_taken_le (injective : ∀ form ∈ forms, Function.Injective form) (bound : Nat) :
    ((Finset.range bound).filter fun n => ∃ form ∈ forms, form n ∈ taken).card ≤
      forms.length * taken.length := by
  induction forms with
  | nil => simp
  | cons form forms ih =>
    have here : ((Finset.range bound).filter fun n => form n ∈ taken).card ≤ taken.length := by
      refine le_trans (Finset.card_le_card_of_injOn form ?_ ?_) taken.toFinset_card_le
      · intro n member
        simpa using (Finset.mem_filter.mp member).2
      · exact (injective form List.mem_cons_self).injOn
    have later := ih fun form member => injective form (List.mem_cons_of_mem _ member)
    simp only [List.exists_mem_cons_iff, Finset.filter_or]
    calc _ ≤ _ := Finset.card_union_le _ _
      _ ≤ taken.length + forms.length * taken.length := Nat.add_le_add here later
      _ = (form :: forms).length * taken.length := by
        rw [List.length_cons, Nat.succ_mul, Nat.add_comm]

/-- One of so many numbers is free in every form. -/
theorem exists_free (injective : ∀ form ∈ forms, Function.Injective form) :
    ∃ n < forms.length * taken.length + 1, ∀ form ∈ forms, form n ∉ taken := by
  by_contra none
  have few := card_taken_le taken injective (forms.length * taken.length + 1)
  rw [Finset.filter_true_of_mem, Finset.card_range] at few
  · omega
  · intro n member
    by_contra free
    refine none ⟨n, Finset.mem_range.mp member, fun form inside held => ?_⟩
    exact free ⟨form, inside, held⟩

end Pigeonhole

theorem numbered_injective (name : String) : Function.Injective (numbered name) :=
  injective_of_numeral name.toList [] (by simp [toList_numbered])

theorem countsTo_firstFree (used : List String) (name : String) :
    CountsTo (· ∉ used) name 0 (firstFree used name) := by
  have injective : ∀ form ∈ [numbered name], Function.Injective form := by
    simpa using numbered_injective name
  obtain ⟨n, small, free⟩ := exists_free used injective
  rw [List.length_singleton, Nat.one_mul] at small
  have here : (!used.contains (numbered name n)) = true := by
    simpa using free (numbered name) List.mem_cons_self
  have found := countsTo_find? (fun candidate => !used.contains candidate) name name
    ⟨n, small, here⟩
  simpa [firstFree] using found

end OptionProtocol.Sanitizer
