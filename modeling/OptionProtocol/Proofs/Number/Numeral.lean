import OptionProtocol.Number.Shortest
import OptionProtocol.Proofs.Number
import OptionProtocol.Proofs.Text.LetterCase

/-! Numbers with a point or a power of ten: the parts that they are written in, and what is read
from them. The text of every finite floating point number is of this form. -/

set_option autoImplicit false

namespace OptionProtocol.Number

open OptionProtocol.Text

/-- There are digits, and nothing else. -/
def IsDigits (s : List Char) : Prop := s ≠ [] ∧ ∀ c ∈ s, c.isDigit = true

theorem IsDigits.exists_digit {s : List Char} (digits : IsDigits s) :
    ∃ c ∈ s, c.isDigit = true := by
  obtain ⟨c, member⟩ := List.exists_mem_of_ne_nil s digits.1
  exact ⟨c, member, digits.2 c member⟩

/-- The text does not go on with a digit. -/
def NoDigit (rest : List Char) : Prop := ∀ c ∈ rest.head?, c.isDigit = false

theorem spanDigits_append {digits rest : List Char} (all : ∀ c ∈ digits, c.isDigit = true)
    (stops : NoDigit rest) : spanDigits (digits ++ rest) = (digits, rest) := by
  have behind : rest.takeWhile Char.isDigit = [] ∧ rest.dropWhile Char.isDigit = rest := by
    cases rest with
    | nil => exact ⟨rfl, rfl⟩
    | cons c rest =>
      have other : c.isDigit = false := stops c rfl
      simp [other]
  rw [spanDigits, List.takeWhile_append_of_pos all, List.dropWhile_append_of_pos all, behind.1,
    behind.2, List.append_nil]

theorem NoDigit.append {front rest : List Char} (first : NoDigit front) (behind : NoDigit rest) :
    NoDigit (front ++ rest) := by
  cases front with
  | nil => exact behind
  | cons c more => exact first

theorem isDigits_toDigits (n : Nat) : IsDigits (Nat.toDigits 10 n) :=
  ⟨Nat.toDigits_ne_nil, fun _ => isDigit_of_mem_toDigits⟩

theorem ofDigits_toDigits (n : Nat) : ofDigits (Nat.toDigits 10 n) = n := by
  rw [ofDigits_eq_ofDigitChars, Nat.ofDigitChars_ten_toDigits]

/-- Only zero is written with a zero in front. -/
theorem toDigits_head {n : Nat} (zero : (Nat.toDigits 10 n).head? = some '0') :
    Nat.toDigits 10 n = ['0'] := by
  have value := ofDigits_toDigits n
  have digits := (isDigits_toDigits n).2
  obtain ⟨rest, written⟩ := List.head?_eq_some_iff.mp zero
  rw [written] at digits value ⊢
  -- The digits behind a zero would do for the number, so there are none.
  have below : n < 10 ^ rest.length := by
    rw [← value]
    exact ofDigits_lt rest fun c member => digits c (List.mem_cons_of_mem _ member)
  cases rest with
  | nil => rfl
  | cons c more =>
    have short := (Nat.length_toDigits_le_iff (by decide) (by simp)).mpr below
    rw [written] at short
    exact absurd short (by simp)

/-- The parts of a number: a sign, digits in front of a point and behind it, and a power of ten,
which may have a sign of its own. -/
structure Numeral where
  negative : Bool
  whole : List Char
  fraction : List Char := []
  power : Option (Bool × List Char) := none

namespace Numeral

variable {n : Numeral}

def fractionChars (n : Numeral) : List Char :=
  if n.fraction.isEmpty then [] else '.' :: n.fraction

def powerChars (n : Numeral) : List Char :=
  match n.power with
  | none => []
  | some (down, digits) => 'e' :: (if down then '-' else '+') :: digits

def unsigned (n : Numeral) : List Char := n.whole ++ (n.fractionChars ++ n.powerChars)

def chars (n : Numeral) : List Char := if n.negative then '-' :: n.unsigned else n.unsigned

def exponent (n : Numeral) : Int :=
  match n.power with
  | none => 0
  | some (down, digits) => if down then -(ofDigits digits : Int) else ofDigits digits

def value (n : Numeral) : Binary64 :=
  .ofDecimal n.negative (ofDigits (n.whole ++ n.fraction)) (n.exponent - n.fraction.length)

/-- The parts are digits, and no zero stands in front of others. -/
structure IsPlain (n : Numeral) : Prop where
  whole : IsDigits n.whole
  leading : n.whole.head? = some '0' → n.whole = ['0']
  fraction : ∀ c ∈ n.fraction, c.isDigit = true
  power : ∀ down digits, n.power = some (down, digits) → IsDigits digits

theorem IsPlain.exists_digit (plain : n.IsPlain) : ∃ c ∈ n.chars, c.isDigit = true := by
  obtain ⟨c, member, digit⟩ := plain.whole.exists_digit
  have unsigned : c ∈ n.unsigned := List.mem_append_left _ member
  refine ⟨c, ?_, digit⟩
  unfold chars
  split
  · exact List.mem_cons_of_mem _ unsigned
  · exact unsigned

theorem head?_powerChars : ∀ c ∈ n.powerChars.head?, c = 'e' := by
  unfold powerChars
  split <;> simp

theorem head?_fractionChars : ∀ c ∈ n.fractionChars.head?, c = '.' := by
  unfold fractionChars
  split <;> simp

theorem IsPlain.exists_unsigned (plain : n.IsPlain) :
    ∃ c rest, n.unsigned = c :: rest ∧ c.isDigit = true := by
  obtain ⟨c, more, whole⟩ := List.exists_cons_of_ne_nil plain.whole.1
  exact ⟨c, more ++ (n.fractionChars ++ n.powerChars), by rw [unsigned, whole, List.cons_append],
    plain.whole.2 c (by rw [whole]; exact List.mem_cons_self)⟩

/-- The characters of a number. -/
def IsMark (c : Char) : Prop := c.isDigit = true ∨ c ∈ ['-', '+', '.', 'e']

theorem IsPlain.isMark (plain : n.IsPlain) {c : Char} (member : c ∈ n.chars) : IsMark c := by
  have digits {s : List Char} (all : ∀ c ∈ s, c.isDigit = true) : ∀ c ∈ s, IsMark c :=
    fun c inside => .inl (all c inside)
  have fraction : ∀ c ∈ n.fractionChars, IsMark c := by
    unfold fractionChars
    split
    · simp
    · exact List.forall_mem_cons.mpr ⟨.inr (by simp), digits plain.fraction⟩
  have power : ∀ c ∈ n.powerChars, IsMark c := by
    unfold powerChars
    split
    · simp
    · rename_i down more held
      refine List.forall_mem_cons.mpr ⟨.inr (by simp), List.forall_mem_cons.mpr ⟨.inr ?_, ?_⟩⟩
      · cases down <;> simp
      · exact digits (plain.power down more held).2
  have unsigned : ∀ c ∈ n.unsigned, IsMark c :=
    List.forall_mem_append.mpr ⟨digits plain.whole.2, List.forall_mem_append.mpr ⟨fraction, power⟩⟩
  unfold chars at member
  split at member
  · obtain rfl | inside := List.mem_cons.mp member
    · exact .inr (by simp)
    · exact unsigned c inside
  · exact unsigned c member

end Numeral

/-! What is read from a number. -/

theorem Numeral.IsMark.plain {c : Char} (mark : IsMark c) :
    isNumberPadding c = false ∧ commonDigit c = c ∧ c ≠ '_' := by
  obtain digit | sign := mark
  · refine ⟨isNumberPadding_of_isDigit digit, commonDigit_of_isDigit digit, ?_⟩
    rintro rfl
    cases digit
  · obtain rfl | rfl | rfl | rfl : c = '-' ∨ c = '+' ∨ c = '.' ∨ c = 'e' := by simpa using sign
    all_goals decide

theorem prepared_eq_self {s : List Char} (marks : ∀ c ∈ s, Numeral.IsMark c) :
    prepared (String.ofList s) = s := by
  rw [prepared, String.toList_ofList, trim_eq_self fun c member => (marks c member).plain.1]
  exact (List.map_congr_left fun c member => (marks c member).plain.2.1).trans (List.map_id _)

theorem withoutUnderscores?_eq_self {s : List Char} (none : '_' ∉ s) (previous : Char) :
    withoutUnderscores? previous s = some s := by
  fun_induction withoutUnderscores? previous s with
  | case1 => rfl
  | case2 => simp at none
  | case3 => simp at none
  | case4 => simp at none
  | case5 previous c rest _ _ ih =>
    rw [ih fun later => none (List.mem_cons_of_mem _ later)]
    rfl

theorem signed_digit {c : Char} (digit : c.isDigit = true) (rest : List Char) :
    signed (c :: rest) = (false, c :: rest) := by
  unfold signed
  split
  · rename_i same
    cases same
    cases digit
  · rename_i same
    cases same
    cases digit
  · rfl

namespace Numeral

variable {n : Numeral}

theorem IsPlain.signed (plain : n.IsPlain) : signed n.chars = (n.negative, n.unsigned) := by
  obtain ⟨c, rest, unsigned, digit⟩ := plain.exists_unsigned
  rw [chars, unsigned]
  cases n.negative with
  | true => rfl
  | false => exact signed_digit digit rest

theorem IsPlain.readPower? (plain : n.IsPlain) : readPower? n.powerChars = some n.exponent := by
  unfold powerChars exponent
  cases held : n.power with
  | none => rfl
  | some power =>
    obtain ⟨down, digits⟩ := power
    obtain ⟨filled, all⟩ := plain.power down digits held
    have stops : NoDigit [] := by simp [NoDigit]
    have span : spanDigits digits = (digits, []) := by simpa using spanDigits_append all stops
    cases down <;> simp [Number.readPower?, Number.signed, span, filled]

theorem noDigit_powerChars : NoDigit n.powerChars := by
  intro c first
  rw [head?_powerChars c first]
  rfl

theorem noDigit_fractionChars : NoDigit n.fractionChars := by
  intro c first
  rw [head?_fractionChars c first]
  rfl

theorem IsPlain.readDecimal? (plain : n.IsPlain) :
    readDecimal? n.negative n.unsigned = some n.value := by
  have whole : spanDigits n.unsigned = (n.whole, n.fractionChars ++ n.powerChars) :=
    spanDigits_append plain.whole.2 (noDigit_fractionChars.append noDigit_powerChars)
  have power := plain.readPower?
  simp only [Number.readDecimal?, whole, value]
  cases fraction : n.fraction with
  | nil =>
    have none : n.fractionChars = [] := by simp [fractionChars, fraction]
    have other : ∀ rest, n.powerChars ≠ '.' :: rest := by
      rintro rest same
      have first := head?_powerChars (n := n) '.' (by rw [same]; rfl)
      cases first
    rw [none, List.nil_append]
    split
    · rename_i rest same
      exact absurd same (other rest)
    · simp [power, plain.whole.1]
  | cons c more =>
    have point : n.fractionChars = '.' :: n.fraction := by simp [fractionChars, fraction]
    have span : spanDigits (n.fraction ++ n.powerChars) = (n.fraction, n.powerChars) :=
      spanDigits_append plain.fraction noDigit_powerChars
    rw [← fraction, point, List.cons_append]
    simp [span, power, plain.whole.1]

/-- A digit is no letter. -/
theorem toLower_of_isDigit {c : Char} (digit : c.isDigit = true) : c.toLower = c := by
  have table : ∀ n < 0x80, (Char.ofNat n).isDigit = true →
      (Char.ofNat n).toLower = Char.ofNat n := by decide +kernel
  have common : IsCommon c := .of_isAlphanum (by simp [Char.isAlphanum, digit])
  exact common.forall_of_table (p := fun c => c.isDigit = true → c.toLower = c) table digit

theorem IsPlain.readFloat? (plain : n.IsPlain) :
    readFloat? (String.ofList n.chars) = some n.value := by
  have prepared : prepared (String.ofList n.chars) = n.chars :=
    prepared_eq_self fun c => plain.isMark
  have whole : withoutUnderscores? ' ' n.chars = some n.chars :=
    withoutUnderscores?_eq_self (fun member => (plain.isMark member).plain.2.2 rfl) ' '
  obtain ⟨c, rest, unsigned, digit⟩ := plain.exists_unsigned
  have other {name : String} {first : Char} (begins : name.toList.head? = some first)
      (letter : first.isDigit = false) : String.ofList (n.unsigned.map Char.toLower) ≠ name := by
    rintro rfl
    rw [String.toList_ofList, unsigned, List.map_cons, toLower_of_isDigit digit] at begins
    cases begins
    rw [digit] at letter
    cases letter
  simp only [Number.readFloat?, prepared, whole, plain.signed, plain.readDecimal?,
    other (rfl : "inf".toList.head? = some 'i') rfl,
    other (rfl : "infinity".toList.head? = some 'i') rfl,
    other (rfl : "nan".toList.head? = some 'n') rfl, or_self, if_false]

end Numeral

end OptionProtocol.Number

namespace OptionProtocol.Binary64

open Number (IsDigits Numeral)

variable {near : Neighbourhood} {digits : List Char} {top : Int}

/-! The text of a number. -/

theorem not_admits_zero (low : 0 < near.low) (power : Int) : near.admits 0 power = false := by
  have scale : 0 < near.low * Nat.pow 10 (-power).toNat :=
    Nat.mul_pos low (Nat.pow_pos (by decide))
  simp only [Neighbourhood.admits, Nat.zero_mul]
  split
  · rw [decide_eq_false (Nat.not_le.mpr scale), Bool.false_and]
  · rw [decide_eq_false (Nat.not_lt_zero _), Bool.false_and]

theorem admits_of_choose? {power : Int} {chosen : Nat}
    (found : near.choose? power = some chosen) : near.admits chosen power = true := by
  have pick (first second : Nat) (found : (if near.admits first power then some first
      else if near.admits second power then some second else none) = some chosen) :
      near.admits chosen power = true := by
    split at found
    · rename_i admitted
      rwa [← Option.some.inj found]
    · split at found
      · rename_i admitted
        rwa [← Option.some.inj found]
      · cases found
  exact pick _ _ found

theorem neighbourhood_low {mantissa : Nat} (filled : mantissa ≠ 0) (exponent : Int) :
    0 < (neighbourhood mantissa exponent).low := by
  refine Nat.mul_pos ?_ (Nat.pow_pos (by decide))
  split <;> omega

theorem shortest_cases {mantissa : Nat} (filled : mantissa ≠ 0) (exponent : Int) :
    shortest mantissa exponent = (0, 0) ∨ (shortest mantissa exponent).1 ≠ 0 := by
  simp only [shortest]
  cases found : (List.range 17).findSome? _ with
  | none => exact .inl rfl
  | some decimal =>
    obtain ⟨k, _, chosen⟩ := List.exists_of_findSome?_eq_some found
    obtain ⟨digits, picked, rfl⟩ := Option.map_eq_some_iff.mp chosen
    refine .inr ?_
    rintro rfl
    have admitted := admits_of_choose? picked
    rw [not_admits_zero (neighbourhood_low filled exponent)] at admitted
    cases admitted

/-- Digits of which the first is no zero. -/
def Leads (s : List Char) : Prop := IsDigits s ∧ s.head? ≠ some '0'

theorem scientific_zero (power : Int) : scientific (0, power) = ([], power) := by
  simp [scientific]

theorem leads_scientific {decimal : Nat × Int} (filled : decimal.1 ≠ 0) :
    Leads (scientific decimal).1 := by
  have all := (Number.isDigits_toDigits decimal.1).2
  obtain ⟨c, rest, written⟩ := List.exists_cons_of_ne_nil
    (Number.isDigits_toDigits decimal.1).1
  have first : c ≠ '0' := by
    rintro rfl
    have zero := Number.toDigits_head (by rw [written]; rfl)
    have value := Number.ofDigits_toDigits decimal.1
    rw [zero] at value
    exact filled value.symm
  have kept : (scientific decimal).1 = Text.trimEnd (· == '0') (Nat.toDigits 10 decimal.1) := rfl
  have stays : (fun d => d == '0') c = false := by simpa using first
  obtain ⟨more, trimmed⟩ := @Text.trimEnd_cons (· == '0') c stays rest
  rw [kept, written, trimmed]
  refine ⟨⟨by simp, fun d member => all d ?_⟩, by simpa using first⟩
  rw [written]
  rw [← trimmed] at member
  exact (Text.isPrefix_trimEnd _ _).subset member

/-- How the digits of a number are: a zero is left without any. -/
def Shaped (digits : List Char) (top : Int) : Prop := digits = [] ∧ top = 0 ∨ Leads digits

theorem shaped_scientific {mantissa : Nat} (filled : mantissa ≠ 0) (exponent : Int) :
    Shaped (scientific (shortest mantissa exponent)).1
      (scientific (shortest mantissa exponent)).2 := by
  obtain zero | filled := shortest_cases filled exponent
  · rw [zero, scientific_zero]
    exact .inl ⟨rfl, rfl⟩
  · exact .inr (leads_scientific filled)

/-- A part behind a point, or a power, tells the number from an integer. -/
structure IsFloating (n : Numeral) : Prop where
  plain : n.IsPlain
  marked : n.fraction ≠ [] ∨ n.power ≠ none

theorem isDigit_zeros (count : Nat) : ∀ c ∈ zeros count, c.isDigit = true := by
  intro c member
  rw [List.eq_of_mem_replicate member]
  rfl

/-- Digits around a point. -/
theorem exists_pointed {whole fraction : List Char} (digits : IsDigits whole)
    (leading : whole.head? = some '0' → whole = ['0']) (behind : IsDigits fraction)
    (negative : Bool) : ∃ n : Numeral,
      n.negative = negative ∧ IsFloating n ∧ n.unsigned = whole ++ '.' :: fraction := by
  have filled : fraction.isEmpty = false := by simpa using behind.1
  refine ⟨⟨negative, whole, fraction, none⟩, rfl,
    ⟨⟨digits, leading, behind.2, ?_⟩, .inl behind.1⟩, ?_⟩
  · simp
  · simp [Numeral.unsigned, Numeral.fractionChars, Numeral.powerChars, filled]

theorem exists_positional (shaped : Shaped digits top) (negative : Bool) : ∃ n : Numeral,
    n.negative = negative ∧ IsFloating n ∧ n.unsigned = positional digits top := by
  have zero : IsDigits ['0'] := by simp [IsDigits]
  obtain ⟨rfl, rfl⟩ | ⟨⟨filled, all⟩, first⟩ := shaped
  · exact exists_pointed zero (fun _ => rfl) zero negative
  · unfold positional
    split
    · refine exists_pointed zero (fun _ => rfl) ⟨by simp [filled], ?_⟩ negative
      exact List.forall_mem_append.mpr ⟨isDigit_zeros _, all⟩
    · dsimp only
      split
      · rw [List.append_assoc, ← List.append_assoc]
        refine exists_pointed ⟨by simp [filled], ?_⟩ ?_ zero negative
        · exact List.forall_mem_append.mpr ⟨all, isDigit_zeros _⟩
        · obtain ⟨c, more, rfl⟩ := List.exists_cons_of_ne_nil filled
          exact fun zero => absurd zero first
      · rename_i few
        refine exists_pointed
          ⟨by simp [filled], fun c member => all c (List.mem_of_mem_take member)⟩ ?_
          ⟨by simpa using few, fun c member => all c (List.mem_of_mem_drop member)⟩ negative
        rw [List.head?_take, if_neg (Nat.succ_ne_zero _)]
        exact fun zero => absurd zero first

/-- At least two digits for a power of ten. -/
def powerDigits (top : Int) : List Char :=
  if (Nat.toDigits 10 top.natAbs).length < 2 then '0' :: Nat.toDigits 10 top.natAbs
  else Nat.toDigits 10 top.natAbs

theorem isDigits_powerDigits (top : Int) : IsDigits (powerDigits top) := by
  have digits := Number.isDigits_toDigits top.natAbs
  unfold powerDigits
  split
  · exact ⟨by simp, List.forall_mem_cons.mpr ⟨rfl, digits.2⟩⟩
  · exact digits

theorem exists_exponential (leads : Leads digits) (top : Int) (negative : Bool) : ∃ n : Numeral,
    n.negative = negative ∧ IsFloating n ∧ n.unsigned = exponential digits top := by
  obtain ⟨⟨filled, all⟩, first⟩ := leads
  obtain ⟨c, fraction, rfl⟩ := List.exists_cons_of_ne_nil filled
  obtain ⟨digit, behind⟩ := List.forall_mem_cons.mp all
  refine ⟨⟨negative, [c], fraction, some (top < 0, powerDigits top)⟩, rfl,
    ⟨⟨⟨by simp, by simpa using digit⟩, fun zero => absurd zero first, behind, ?_⟩,
      .inr (by simp)⟩, ?_⟩
  · rintro _ _ ⟨⟩
    exact isDigits_powerDigits top
  · have sign : (if decide (top < 0) = true then '-' else '+') = if top < 0 then '-' else '+' := by
      simp
    cases fraction with
    | nil => simp only [Numeral.unsigned, Numeral.fractionChars, Numeral.powerChars, sign]; rfl
    | cons second more =>
      simp only [Numeral.unsigned, Numeral.fractionChars, Numeral.powerChars, sign]; rfl

/-- A finite number is written as a numeral. -/
theorem exists_numeral (negative : Bool) (mantissa : Nat) (exponent : Int) : ∃ n : Numeral,
    IsFloating n ∧ (finite negative mantissa exponent).text = String.ofList n.chars := by
  obtain ⟨n, rfl, floating, unsigned⟩ : ∃ n : Numeral, n.negative = negative ∧ IsFloating n ∧
      n.unsigned = if mantissa = 0 then ['0', '.', '0'] else
        if -4 ≤ (scientific (shortest mantissa exponent)).2 ∧
            (scientific (shortest mantissa exponent)).2 < 16 then
          positional (scientific (shortest mantissa exponent)).1
            (scientific (shortest mantissa exponent)).2
        else exponential (scientific (shortest mantissa exponent)).1
          (scientific (shortest mantissa exponent)).2 := by
    split
    · exact exists_positional (.inl ⟨rfl, rfl⟩) negative
    · rename_i filled
      have shaped := shaped_scientific filled exponent
      split
      · exact exists_positional shaped negative
      · rename_i far
        obtain ⟨_, zero⟩ | leads := shaped
        · rw [zero] at far
          exact absurd (by decide) far
        · exact exists_exponential leads _ negative
  refine ⟨n, floating, ?_⟩
  rw [Numeral.chars, unsigned]
  rfl

/-- The text of a number that is read back is a numeral of its value. -/
theorem exists_numeral_of_readFloat? {negative : Bool} {mantissa : Nat} {exponent : Int}
    (again : Number.readFloat? (finite negative mantissa exponent).text =
      some (finite negative mantissa exponent)) : ∃ n : Numeral, IsFloating n ∧
    (finite negative mantissa exponent).text = String.ofList n.chars ∧
      n.value = finite negative mantissa exponent := by
  obtain ⟨n, floating, written⟩ := exists_numeral negative mantissa exponent
  rw [written, floating.plain.readFloat?] at again
  exact ⟨n, floating, written, Option.some.inj again⟩

end OptionProtocol.Binary64
