import OptionProtocol.Proofs.Handler.Fitting
import OptionProtocol.Proofs.Number.Numeral
import OptionProtocol.Proofs.Text.LetterCase

/-! Which values can be written like the announcement of an option: texts and paths can, and
numbers and objects cannot as long as the option is named by a word. -/

set_option autoImplicit false

namespace OptionProtocol

open TokenSequence

/-- A name of letters and dashes that is not the name of a number either. -/
def IsWord (flag : String) : Prop :=
  flag ≠ "inf" ∧ flag.toList.all (fun c => c.isAlpha || c == '-') = true

instance (flag : String) : Decidable (IsWord flag) := inferInstanceAs (Decidable (_ ∧ _))

/-- Some character of the text is a digit. -/
def HasDigit (text : String) : Prop := ∃ c ∈ text.toList, c.isDigit = true

theorem IsWord.mem_announce {flag : String} (word : IsWord flag) {c : Char}
    (member : c ∈ (announce flag).toList) : c.isAlpha = true ∨ c = '-' := by
  have chars : (announce flag).toList = '-' :: flag.toList := by simp [announce]
  rw [chars, List.mem_cons] at member
  rcases member with rfl | inside
  · exact .inr rfl
  · simpa using List.all_eq_true.mp word.2 c inside

theorem IsWord.not_hasDigit {flag : String} (word : IsWord flag) :
    ¬HasDigit (announce flag) := by
  rintro ⟨c, member, digit⟩
  rcases word.mem_announce member with alpha | rfl
  · exact absurd digit (by rw [Text.not_isDigit_of_isAlpha alpha]; decide)
  · exact absurd digit (by decide)

theorem IsWord.ne_inf {flag : String} (word : IsWord flag) : announce flag ≠ "-inf" := by
  intro same
  have flag : flag = "inf" := announce_injective same
  exact word.1 flag

theorem announce_head (flag : String) : (announce flag).toList.head? = some '-' := by
  simp [announce]

theorem Number.hasDigit_intText (n : Int) : HasDigit (intText n) := by
  obtain ⟨c, member, digit⟩ := (isDigits_toDigits n.natAbs).exists_digit
  exact ⟨c, by simp [intText, member], digit⟩

namespace Binary64

-- Every finite number has a digit, so only the others can look like a word.
theorem text_cases (x : Binary64) :
    x.text = "nan" ∨ x.text = "inf" ∨ x.text = "-inf" ∨ HasDigit x.text := by
  cases x with
  | nan => exact .inl rfl
  | infinity negative => cases negative <;> simp [text]
  | finite negative mantissa exponent =>
    right; right; right
    obtain ⟨n, floating, written⟩ := exists_numeral negative mantissa exponent
    rw [HasDigit, written, String.toList_ofList]
    exact floating.plain.exists_digit

end Binary64

/-- A value that is written like an announcement is a text or a path. -/
theorem Value.OfKind.text_of_encode {base : Option ClassId} {kind : Kind} {value : Value}
    (ofKind : value.OfKind base kind) {flag : String} (word : IsWord flag)
    (concrete : value.Inside (·.id.IsConcrete))
    (encoded : value.encode kind = .ok (announce flag)) :
    value = .text (announce flag) ∨
      ∃ path : FilePath, value = .path path ∧ path.text = announce flag := by
  cases ofKind with
  -- A number has a digit in it or is named like one, and a word is neither.
  | @integer n writable | @long n writable =>
    have text := ((encode_int_eq_ok (by simp)).mp encoded).2
    exact absurd (text ▸ Number.hasDigit_intText n) word.not_hasDigit
  | float x | double x =>
    have text : x.text = announce flag := Except.ok.inj encoded
    rcases x.text_cases with same | same | same | digit
    · exact absurd (congrArg (·.toList.head?) (same.symm.trans text)) (by simp [announce])
    · exact absurd (congrArg (·.toList.head?) (same.symm.trans text)) (by simp [announce])
    · exact absurd (text.symm.trans same) word.ne_inf
    · exact absurd (text ▸ digit) word.not_hasDigit
  | text content =>
    left
    rw [Except.ok.inj encoded]
  | path proper => exact .inr ⟨_, rfl, Except.ok.inj encoded⟩
  -- The command line of an object begins with the name of its class.
  | @object id rows derives =>
    have written : Handler.commandLine ⟨id, rows⟩ = .ok (announce flag) := encoded
    obtain ⟨tokens, _, line⟩ := Handler.commandLine_eq_ok.mp written
    have named : id.IsConcrete := Value.Inside.here ⟨id, rows⟩ concrete
    obtain ⟨c, more, chars, _, other⟩ := id.head_commandLine named tokens
    rw [show CommandLine.join (id.name :: tokens) = announce flag from line] at chars
    simp only [announce, String.toList_append] at chars
    exact absurd (List.cons.inj chars).1.symm other

end OptionProtocol
