import OptionProtocol.Json.Printer
import OptionProtocol.Json.Reader
import OptionProtocol.Proofs.Text.Quoted

/-! Strings in JSON texts: what is written for a text is read back, whatever follows it. -/

set_option autoImplicit false

namespace OptionProtocol.Json

open Text (hexDigit hexDigits)

variable {opening rest : List Char} {c : Char}

theorem hexValue?_hexDigit : ∀ n < 16, hexValue? (hexDigit n) = some n := by decide

theorem unit?_hexDigits {n : Nat} (fits : n < 0x10000) (next : Char) (rest : List Char) :
    unit? (hexDigits 4 n ++ next :: rest) = some (n, next :: rest) := by
  have value (k : Nat) : hexValue? (hexDigit (k % 16)) = some (k % 16) :=
    hexValue?_hexDigit _ (Nat.mod_lt k (by decide))
  have whole : (((n / 16 / 16 / 16 % 16) * 16 + n / 16 / 16 % 16) * 16 + n / 16 % 16) * 16 +
      n % 16 = n := by
    omega
  simp [hexDigits, unit?, value, whole]

/-- The escape of a control character, which is no half of a pair. -/
theorem unicodeEscape_hexDigits (small : c.toNat < 0x20) (atLetter : List Char) (next : Char)
    (rest : List Char) :
    unicodeEscape atLetter (hexDigits 4 c.toNat ++ next :: rest) = .ok (c, next :: rest) := by
  have unit := unit?_hexDigits (Nat.lt_trans small (by decide)) next rest
  have high : isHighSurrogate c.toNat = false := by
    simp only [isHighSurrogate, Bool.and_eq_false_iff, decide_eq_false_iff_not]
    omega
  have low : isLowSurrogate c.toNat = false := by
    simp only [isLowSurrogate, Bool.and_eq_false_iff, decide_eq_false_iff_not]
    omega
  have char : charOfUnit c.toNat = c := by
    simp [charOfUnit, high, low]
  simp only [unicodeEscape, unit, high, char]
  split <;> rfl

/-- How a character stands in a string. -/
inductive Form (c : Char) : List Char → Prop where
  | lettered {letter : Char} (known : letterEscape? letter = some c)
      (printable : 0x20 ≤ letter.toNat) : Form c ['\\', letter]
  | numbered (small : c.toNat < 0x20) : Form c ('\\' :: 'u' :: hexDigits 4 c.toNat)
  | plain (unquoted : c ≠ '"') (single : c ≠ '\\') (printable : 0x20 ≤ c.toNat) : Form c [c]

theorem escapedChar_form (c : Char) : Form c (escapedChar c) := by
  unfold escapedChar
  split
  iterate 7 exact .lettered rfl (by decide)
  rename_i unquoted single _ _ _ _ _
  split
  · rename_i small
    exact .numbered small
  · rename_i large
    exact .plain (fun same => unquoted same) (fun same => single same) (Nat.le_of_not_lt large)

/-- One character more is read from its own form, in which nothing ends the string. -/
theorem Form.stringBody {spelled : List Char} (form : Form c spelled) (fuel : Nat)
    (filled : rest ≠ []) : stringBody opening (fuel + 1) (spelled ++ rest) =
      (stringBody opening fuel rest).map fun read => (c :: read.1, read.2) := by
  cases form with
  | @lettered letter known printable =>
    have other : letter ≠ 'u' := by
      rintro rfl
      cases known
    simp only [List.cons_append, List.nil_append, Json.stringBody]
    rw [if_neg (by decide), if_pos trivial, known]
    cases Json.stringBody opening fuel rest <;> rfl
  | numbered small =>
    obtain ⟨next, more, rfl⟩ := List.exists_cons_of_ne_nil filled
    simp only [List.cons_append, Json.stringBody, unicodeEscape_hexDigits small]
    rw [if_neg (by decide), if_pos trivial]
    change (Json.stringBody opening fuel (next :: more) >>=
      fun read => pure (c :: read.1, read.2)) = _
    cases Json.stringBody opening fuel (next :: more) <;> rfl
  | plain unquoted single printable =>
    simp only [List.singleton_append, Json.stringBody, unquoted, single, Nat.not_lt.mpr printable,
      if_false]
    cases Json.stringBody opening fuel rest <;> rfl

/-- No control character stands in a string. -/
theorem Form.printable {spelled : List Char} (form : Form c spelled) :
    spelled ≠ [] ∧ ∀ d ∈ spelled, 0x20 ≤ d.toNat := by
  cases form with
  | lettered known printable => simpa using printable
  | numbered small => simpa using Text.forall_hexDigits (by decide) 4 c.toNat
  | plain unquoted single printable => simpa using printable

theorem length_flatMap_escapedChar (s : List Char) :
    s.length ≤ (s.flatMap escapedChar).length := by
  induction s with
  | nil => exact Nat.le_refl 0
  | cons c s ih =>
    have filled := List.length_pos_iff.mpr (escapedChar_form c).printable.1
    rw [List.flatMap_cons, List.length_append, List.length_cons]
    omega

theorem stringBody_flatMap {s : List Char} {fuel : Nat} (enough : s.length < fuel) :
    stringBody opening fuel (s.flatMap escapedChar ++ '"' :: rest) = .ok (s, rest) := by
  obtain ⟨fuel, rfl⟩ := Nat.exists_eq_add_one.mpr (Nat.zero_lt_of_lt enough)
  induction s generalizing fuel with
  | nil => rfl
  | cons c s ih =>
    have enough := Nat.lt_of_succ_lt_succ enough
    obtain ⟨less, rfl⟩ := Nat.exists_eq_add_one.mpr (Nat.zero_lt_of_lt enough)
    rw [List.flatMap_cons, List.append_assoc, (escapedChar_form c).stringBody _ (by simp),
      ih less enough]
    rfl

/-- The characters of a text between its quotes. -/
def escaped (s : String) : List Char := s.toList.flatMap escapedChar

theorem toList_stringText (s : String) : (stringText s).toList = '"' :: (escaped s ++ ['"']) := by
  simp [stringText, Text.over, escaped]

/-- A text is read back from behind its opening quote. -/
theorem string_escaped (s : String) (rest : List Char) :
    string (escaped s ++ '"' :: rest) = .ok (s, rest) := by
  have enough : s.toList.length < (escaped s ++ '"' :: rest).length + 1 := by
    have fits := length_flatMap_escapedChar s.toList
    rw [List.length_append]
    unfold escaped
    omega
  have body : stringBody _ _ (escaped s ++ '"' :: rest) = _ :=
    @stringBody_flatMap ('"' :: (escaped s ++ '"' :: rest)) rest _ _ enough
  unfold string
  rw [body]
  simp [bind, Except.bind, pure, Except.pure]

theorem printable_stringText (s : String) : ∀ c ∈ (stringText s).toList, 0x20 ≤ c.toNat := by
  have quote : 0x20 ≤ '"'.toNat := by decide
  rw [toList_stringText]
  refine List.forall_mem_cons.mpr ⟨quote, List.forall_mem_append.mpr ⟨fun c member => ?_, ?_⟩⟩
  · obtain ⟨d, _, inside⟩ := List.mem_flatMap.mp member
    exact (escapedChar_form d).printable.2 c inside
  · exact List.forall_mem_singleton.mpr quote

example : stringText "a\tb" = "\"a\\tb\"" := by decide

end OptionProtocol.Json
