import OptionProtocol.Json.Reader
import OptionProtocol.Proofs.Number.Numeral

/-! Numbers in JSON texts: what is written for an integer or a finite number is read back. -/

set_option autoImplicit false

namespace OptionProtocol.Json

open Number

variable {n : Numeral} {rest : List Char}

/-- What can come behind a value in a printed text. -/
def Follows (rest : List Char) : Prop := ∀ c ∈ rest.head?, c = ',' ∨ c = '\n'

theorem Follows.noDigit (follows : Follows rest) : NoDigit rest := by
  intro c first
  obtain rfl | rfl := follows c first <;> rfl

theorem Follows.power? (follows : Follows rest) : power? rest = none := by
  cases rest with
  | nil => rfl
  | cons c more =>
    obtain rfl | rfl := follows c rfl <;> rfl

theorem Follows.fractionDigits? (follows : Follows rest) : fractionDigits? rest = none := by
  cases rest with
  | nil => rfl
  | cons c more =>
    obtain rfl | rfl := follows c rfl <;> rfl

theorem wholeDigits?_append (plain : n.IsPlain) (stops : NoDigit rest) :
    wholeDigits? (n.whole ++ rest) = some (n.whole, rest) := by
  obtain ⟨c, more, whole⟩ := List.exists_cons_of_ne_nil plain.whole.1
  have span := spanDigits_append plain.whole.2 stops
  have leading := plain.leading
  have digit : c.isDigit = true := plain.whole.2 c (by rw [whole]; exact List.mem_cons_self)
  rw [whole] at span leading ⊢
  rw [List.cons_append] at span ⊢
  unfold wholeDigits?
  split
  · rename_i same
    obtain ⟨rfl, rfl⟩ := List.cons.inj same
    obtain ⟨_, rfl⟩ := List.cons.inj (leading rfl)
    rfl
  · rename_i same
    obtain ⟨rfl, rfl⟩ := List.cons.inj same
    rw [if_pos digit, span]
  · rename_i same
    cases same

/-- What comes of a part of a number that need not be there. -/
structure ReadsPart {α : Type} (part : Option (α × List Char)) (none : Bool) (default value : α)
    (s rest : List Char) : Prop where
  isNone : part.isNone = none
  value : (part.map Prod.fst).getD default = value
  rest : (part.map Prod.snd).getD s = rest

theorem readsPart_fraction (plain : n.IsPlain) (follows : Follows rest) :
    ReadsPart (fractionDigits? (n.fractionChars ++ (n.powerChars ++ rest))) n.fraction.isEmpty []
      n.fraction (n.fractionChars ++ (n.powerChars ++ rest)) (n.powerChars ++ rest) := by
  have behind : NoDigit (n.powerChars ++ rest) := Numeral.noDigit_powerChars.append follows.noDigit
  have span := spanDigits_append plain.fraction behind
  unfold Numeral.fractionChars
  split
  · rename_i empty
    have none : fractionDigits? (n.powerChars ++ rest) = none := by
      unfold Numeral.powerChars
      cases n.power with
      | none => exact follows.fractionDigits?
      | some power => rfl
    rw [List.nil_append, none, empty]
    exact ⟨rfl, (List.isEmpty_iff.mp empty).symm, rfl⟩
  · rename_i filled
    have some_ : fractionDigits? ('.' :: (n.fraction ++ (n.powerChars ++ rest))) =
        some (n.fraction, n.powerChars ++ rest) := by
      simp [fractionDigits?, span, filled]
    rw [List.cons_append, some_]
    exact ⟨by simpa using filled, rfl, rfl⟩

theorem readsPart_power (plain : n.IsPlain) (follows : Follows rest) :
    ReadsPart (power? (n.powerChars ++ rest)) n.power.isNone 0 n.exponent (n.powerChars ++ rest)
      rest := by
  unfold Numeral.powerChars Numeral.exponent
  cases held : n.power with
  | none =>
    rw [List.nil_append, follows.power?]
    exact ⟨rfl, rfl, rfl⟩
  | some power =>
    obtain ⟨down, digits⟩ := power
    obtain ⟨filled, all⟩ := plain.power down digits held
    have span := spanDigits_append all follows.noDigit
    have some_ : power? ('e' :: (if down then '-' else '+') :: (digits ++ rest)) =
        some (if down then -(ofDigits digits : Int) else ofDigits digits, rest) := by
      cases down <;> simp [Json.power?, signed, span, filled]
    rw [List.cons_append, List.cons_append, some_]
    exact ⟨rfl, rfl, rfl⟩

theorem minus_append (plain : n.IsPlain) (rest : List Char) :
    minus (n.chars ++ rest) = (n.negative, n.unsigned ++ rest) := by
  unfold Numeral.chars
  cases n.negative with
  | true => rfl
  | false =>
    obtain ⟨c, more, unsigned, digit⟩ := plain.exists_unsigned
    rw [if_neg Bool.false_ne_true, unsigned, List.cons_append]
    unfold minus
    split
    · rename_i same
      obtain ⟨rfl, _⟩ := List.cons.inj same
      cases digit
    · rfl

/-- The sign and the parts of a number are told apart again. -/
theorem number_append (plain : n.IsPlain) (follows : Follows rest) :
    number (n.chars ++ rest) =
      if n.fraction.isEmpty && n.power.isNone then
        if greatestDigitCount < n.whole.length then .error (.integerTooLong n.whole.length)
        else
          let size : Int := ofDigits n.whole
          .ok (.int (if n.negative then -size else size), rest)
      else .ok (.float n.value, rest) := by
  have whole : wholeDigits? (n.unsigned ++ rest) =
      some (n.whole, n.fractionChars ++ (n.powerChars ++ rest)) := by
    rw [Numeral.unsigned, List.append_assoc, List.append_assoc]
    exact wholeDigits?_append plain
      (Numeral.noDigit_fractionChars.append (Numeral.noDigit_powerChars.append follows.noDigit))
  have fraction := readsPart_fraction plain follows
  have power := readsPart_power plain follows
  unfold number
  rw [minus_append plain]
  dsimp only
  rw [whole]
  dsimp only
  rw [fraction.rest, fraction.isNone, fraction.value, power.rest, power.isNone, power.value]
  rfl

/-- The parts of an integer. -/
def ofInt (k : Int) : Numeral := ⟨k < 0, Nat.toDigits 10 k.natAbs, [], none⟩

theorem isPlain_ofInt (k : Int) : (ofInt k).IsPlain :=
  ⟨isDigits_toDigits k.natAbs, toDigits_head, by simp [ofInt], by simp [ofInt]⟩

theorem toList_intText (k : Int) : (intText k).toList = (ofInt k).chars := by
  rw [intText, String.toList_ofList]
  by_cases negative : k < 0 <;>
    simp [Numeral.chars, Numeral.unsigned, Numeral.fractionChars, Numeral.powerChars, ofInt,
      negative]

/-- An integer that can be written is read back. -/
theorem number_ofInt {k : Int} (writable : isWritable k = true) (follows : Follows rest) :
    number ((ofInt k).chars ++ rest) = .ok (.int k, rest) := by
  have few : ¬greatestDigitCount < (Nat.toDigits 10 k.natAbs).length := by
    simpa [isWritable] using writable
  rw [number_append (isPlain_ofInt k) follows]
  simp only [ofInt, List.isEmpty_nil, Option.isNone_none, Bool.and_self, if_true, few, if_false,
    ofDigits_toDigits]
  congr 3
  by_cases negative : k < 0
  · simp only [negative, decide_true, if_true]
    omega
  · simp only [negative, decide_false, Bool.false_eq_true, if_false]
    omega

/-- A number that is told from an integer is read as its value. -/
theorem number_floating (floating : Binary64.IsFloating n) (follows : Follows rest) :
    number (n.chars ++ rest) = .ok (.float n.value, rest) := by
  have marked : (n.fraction.isEmpty && n.power.isNone) = false := by
    obtain fraction | power := floating.marked
    · simp [fraction]
    · simp [Option.isSome_iff_ne_none, power]
  rw [number_append floating.plain follows, marked]
  rfl

end OptionProtocol.Json
