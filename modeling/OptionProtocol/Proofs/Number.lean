import Mathlib.Algebra.Ring.Nat
import OptionProtocol.Number.Reading
import OptionProtocol.Proofs.Text.Trimming

/-! Integers survive being written and read, as far as they have a text at all. -/

set_option autoImplicit false

namespace OptionProtocol.Number

open OptionProtocol.Text

theorem isNumberPadding_of_isDigit {c : Char} (digit : c.isDigit = true) :
    isNumberPadding c = false := by
  obtain ⟨low, high⟩ := Char.isDigit_iff_toNat.mp digit
  have bounds : 48 ≤ c.toNat ∧ c.toNat ≤ 57 := ⟨low, high⟩
  cases blank : isBlank c with
  | false => simp [isNumberPadding, blank]
  | true =>
    obtain ⟨range, member, inside⟩ := (Ranges.contains_iff _ _).mp blank
    simp only [blankRanges, List.mem_cons, List.not_mem_nil, or_false] at member
    obtain rfl | rfl | rfl | rfl | rfl | rfl | rfl | rfl | rfl | rfl := member <;>
      simp only at inside <;> omega

theorem commonDigit_of_isDigit {c : Char} (digit : c.isDigit = true) : commonDigit c = c := by
  obtain ⟨low, high⟩ := Char.isDigit_iff_toNat.mp digit
  have bounds : 48 ≤ c.toNat ∧ c.toNat ≤ 57 := ⟨low, high⟩
  have found : digitValue? c = some (c.toNat - 48) := by
    have inside : (decide (48 ≤ c.toNat) && decide (c.toNat < 48 + 10)) = true := by
      simp only [Bool.and_eq_true, decide_eq_true_eq]; omega
    simp [digitValue?, digitZeros, inside]
  have value : 48 + (c.toNat - 48) = c.toNat := by omega
  simp [commonDigit, found, value]

theorem trim_eq_self {drop : Char → Bool} {chars : List Char}
    (kept : ∀ c ∈ chars, drop c = false) : trim drop chars = chars :=
  IsTrimmed.trim_eq {
    first := fun c first => kept c (List.mem_of_mem_head? first)
    last := fun c last => kept c (List.mem_of_mem_getLast? last) }

theorem groupedDigits?_of_isDigit {digits : List Char} (filled : digits ≠ [])
    (all : ∀ c ∈ digits, c.isDigit = true) : groupedDigits? digits = some digits := by
  fun_induction groupedDigits? digits with
  | case1 => exact absurd rfl filled
  | case2 => rfl
  | case3 c other => exact absurd (all c (by simp)) other
  | case4 => exact absurd (all '_' (by simp)) (by decide)
  | case5 => exact absurd (all '_' (by simp)) (by decide)
  | case6 c rest more _ digit ih =>
    have filled : rest ≠ [] := fun empty => more empty
    rw [ih filled fun d member => all d (by simp [member])]
    rfl
  | case7 c rest _ _ other => exact absurd (all c (by simp)) other

theorem isDigit_of_groupedDigits? {chars digits : List Char}
    (grouped : groupedDigits? chars = some digits) :
    digits ≠ [] ∧ ∀ c ∈ digits, c.isDigit = true := by
  fun_induction groupedDigits? chars generalizing digits with
  | case1 | case3 | case5 | case7 => cases grouped
  | case2 c digit =>
    cases grouped
    simpa using digit
  | case4 c rest digit ih | case6 c rest _ _ digit ih =>
    obtain ⟨more, inner, rfl⟩ := Option.map_eq_some_iff.mp grouped
    simpa [digit] using (ih inner).2

theorem ofDigits_eq_ofDigitChars (digits : List Char) :
    ofDigits digits = Nat.ofDigitChars 10 digits 0 := by
  simp [ofDigits, Nat.ofDigitChars_eq_foldl, Nat.mul_comm]

theorem ofDigits_lt (digits : List Char) (all : ∀ c ∈ digits, c.isDigit = true) :
    ofDigits digits < 10 ^ digits.length := by
  rw [ofDigits_eq_ofDigitChars]
  induction digits with
  | nil => simp
  | cons c digits ih =>
    have high := (Char.isDigit_iff_toNat.mp (all c (by simp))).2
    have bound : c.toNat - 48 ≤ 9 := by
      have : c.toNat ≤ 57 := high
      omega
    have rest := ih fun d member => all d (by simp [member])
    -- The first digit counts for at most nine times the power that bounds the others.
    rw [Nat.ofDigitChars_cons, Nat.ofDigitChars_eq_ofDigitChars_zero, List.length_cons,
      Nat.pow_succ]
    have scaled := Nat.mul_le_mul_left (10 ^ digits.length) bound
    simp only [Nat.mul_zero, Nat.zero_add]
    change _ * (c.toNat - 48) + _ < _
    omega

theorem isWritable_iff (n : Int) : isWritable n = true ↔ n.natAbs < 10 ^ greatestDigitCount := by
  rw [isWritable, decide_eq_true_iff,
    Nat.length_toDigits_le_iff (by decide) (by decide)]

/-- Whatever is read has few enough digits to be written. -/
theorem isWritable_of_readInt? {text : String} {n : Int} (read : readInt? text = some n) :
    isWritable n = true := by
  rw [isWritable_iff]
  simp only [readInt?] at read
  split at read
  · cases read
  · rename_i digits grouped
    split at read
    · cases read
    · have below := ofDigits_lt digits (isDigit_of_groupedDigits? grouped).2
      have grown : 10 ^ digits.length ≤ 10 ^ greatestDigitCount :=
        Nat.pow_le_pow_right (by decide) (by omega)
      have size : n.natAbs = ofDigits digits := by
        cases Option.some.inj read
        split <;> omega
      omega

theorem isDigit_of_mem_toDigits {n : Nat} {c : Char} (member : c ∈ Nat.toDigits 10 n) :
    c.isDigit = true :=
  Nat.isDigit_of_mem_toDigits (by decide) (by decide) member

theorem prepared_intText (n : Int) :
    prepared (intText n) = (if n < 0 then ['-'] else []) ++ Nat.toDigits 10 n.natAbs := by
  have all : ∀ c ∈ (if n < 0 then ['-'] else []) ++ Nat.toDigits 10 n.natAbs,
      c = '-' ∨ c.isDigit = true := by
    intro c member
    rcases List.mem_append.mp member with sign | digit
    · left
      split at sign
      · exact List.mem_singleton.mp sign
      · cases sign
    · exact .inr (isDigit_of_mem_toDigits digit)
  -- Neither the sign nor a digit is padding, and both stand for themselves.
  have kept : ∀ c ∈ (if n < 0 then ['-'] else []) ++ Nat.toDigits 10 n.natAbs,
      isNumberPadding c = false := by
    intro c member
    rcases all c member with rfl | digit
    · decide
    · exact isNumberPadding_of_isDigit digit
  have common : ∀ c ∈ (if n < 0 then ['-'] else []) ++ Nat.toDigits 10 n.natAbs,
      commonDigit c = c := by
    intro c member
    rcases all c member with rfl | digit
    · decide
    · exact commonDigit_of_isDigit digit
  rw [prepared, intText, String.toList_ofList, trim_eq_self kept]
  exact (List.map_congr_left common).trans (List.map_id _)

/-- An integer that can be written is read back. -/
theorem readInt?_intText {n : Int} (writable : isWritable n = true) :
    readInt? (intText n) = some n := by
  have digits : groupedDigits? (Nat.toDigits 10 n.natAbs) = some (Nat.toDigits 10 n.natAbs) :=
    groupedDigits?_of_isDigit Nat.toDigits_ne_nil fun c => isDigit_of_mem_toDigits
  have few : ¬greatestDigitCount < (Nat.toDigits 10 n.natAbs).length := by
    simpa [isWritable] using writable
  have value : ofDigits (Nat.toDigits 10 n.natAbs) = n.natAbs := by
    rw [ofDigits_eq_ofDigitChars, Nat.ofDigitChars_ten_toDigits]
  by_cases negative : n < 0
  · simp only [readInt?, prepared_intText, negative, if_true, List.singleton_append, signed,
      digits, few, if_false, value]
    congr 1
    omega
  · -- A digit in front is no sign.
    have sign : signed (Nat.toDigits 10 n.natAbs) = (false, Nat.toDigits 10 n.natAbs) := by
      cases list : Nat.toDigits 10 n.natAbs with
      | nil => rfl
      | cons c rest =>
        have digit : c.isDigit = true := isDigit_of_mem_toDigits (n := n.natAbs) (by simp [list])
        unfold signed
        split
        · rename_i same
          cases same
          exact absurd digit (by decide)
        · rename_i same
          cases same
          exact absurd digit (by decide)
        · rfl
    simp only [readInt?, prepared_intText, negative, if_false, List.nil_append, sign,
      digits, few, value, Bool.false_eq_true]
    congr 1
    omega

end OptionProtocol.Number
