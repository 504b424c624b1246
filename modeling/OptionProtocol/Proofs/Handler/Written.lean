import OptionProtocol.Handler.Encoding
import OptionProtocol.Proofs.Handler.Collecting

/-! The tokens that one level writes, option by option, and when an option finds only its own
tokens among them. What an option writes has one of four shapes, which `Emits` tells apart. -/

set_option autoImplicit false

namespace OptionProtocol

open TokenSequence

/-- The items of a list or a tuple; every other value is its only part. -/
def Value.parts : Value → List Value
  | .list items => items
  | .tuple items => items
  | value => [value]

namespace OptionSpec

/-- The tokens for the value of one option. -/
def tokens (spec : OptionSpec) (value : Value) : Except ValueFault (List String) :=
  if spec.isArray then
    match value with
    | .list items => Value.itemTokens spec.flag spec.kind items
    | .tuple items => Value.itemTokens spec.flag spec.kind items
    | .text content => Value.textTokens spec.flag spec.kind content.toList
    | .object .tokenSequence _ => .ok []
    | _ => .error .wrongType
  else if spec.kind = .flag then .ok (if value.isTruthy then [announce spec.flag] else [])
  else (value.encode spec.kind).map fun text => [announce spec.flag, text]

/-- The texts that follow the announcements of an option. -/
def valueTexts (spec : OptionSpec) (value : Value) : List String :=
  if spec.kind = .flag then []
  else if spec.isArray then value.parts.filterMap fun part => (part.encode spec.kind).toOption
  else (value.encode spec.kind).toOption.toList

/-- Reading the option looks beyond the tokens it has written itself: it collects all
occurrences, or it is a flag that is not set. -/
def Seeks (spec : OptionSpec) (value : Value) : Prop :=
  spec.isArray = true ∨ spec.kind = .flag ∧ value.isTruthy = false

end OptionSpec

theorem Value.parts_of_sequence {value : Value} {items : List Value}
    (sequence : value = .list items ∨ value = .tuple items) : value.parts = items := by
  obtain rfl | rfl := sequence <;> rfl

/-- All value texts of a row. -/
def rowTexts : List OptionSpec → List Value → List String
  | spec :: specs, value :: values => spec.valueTexts value ++ rowTexts specs values
  | _, _ => []

/-- No option of a row that looks beyond its own tokens finds an announcement among the value
texts of later options or the tokens behind the row. -/
def Apart : List OptionSpec → List Value → List String → Prop
  | spec :: specs, value :: values, behind =>
      (spec.Seeks value →
        announce spec.flag ∉ rowTexts specs values ∧ announce spec.flag ∉ behind) ∧
      Apart specs values behind
  | _, _, _ => True

instance (spec : OptionSpec) (value : Value) : Decidable (spec.Seeks value) :=
  inferInstanceAs (Decidable (_ ∨ _))

instance decidableApart (behind : List String) : (specs : List OptionSpec) →
    (values : List Value) → Decidable (Apart specs values behind)
  | _ :: specs, _ :: values =>
      have := decidableApart behind specs values
      inferInstanceAs (Decidable (_ ∧ _))
  | [], _ => isTrue (by unfold Apart; trivial)
  | _ :: _, [] => isTrue (by unfold Apart; trivial)

namespace Value

theorem itemTokens_cons (flag : String) (kind : Kind) (item : Value) (items : List Value) :
    itemTokens flag kind (item :: items) = (do
      let text ← item.encode kind
      let more ← itemTokens flag kind items
      return announce flag :: text :: more) := by
  rw [itemTokens]
  rfl

theorem itemTokens_eq_ok {flag : String} {kind : Kind} {items : List Value} {own : List String} :
    itemTokens flag kind items = .ok own ↔
      ∃ texts, List.Forall₂ (fun item text => item.encode kind = .ok text) items texts ∧
        own = pairs flag texts := by
  constructor
  · intro written
    induction items generalizing own with
    | nil =>
      rw [itemTokens] at written
      exact ⟨[], .nil, (Except.ok.inj written).symm⟩
    | cons item items ih =>
      rw [itemTokens_cons] at written
      obtain ⟨text, first, written⟩ := bind_eq_ok.mp written
      obtain ⟨more, rest, same⟩ := bind_eq_ok.mp written
      obtain ⟨texts, encoded, rfl⟩ := ih rest
      exact ⟨text :: texts, .cons first encoded, (Except.ok.inj same).symm⟩
  · rintro ⟨texts, encoded, rfl⟩
    induction encoded with
    | nil => rw [itemTokens]; rfl
    | cons first _ ih =>
      rw [itemTokens_cons, ih, first]
      rfl

theorem exists_texts_of_reads {kind : Kind} {decodeItem : String → Attempt Value}
    {items agains : List Value}
    (reads : List.Forall₂ (fun item again =>
      ∃ text, item.encode kind = .ok text ∧ (decodeItem text).result = .ok again) items agains) :
    ∃ texts, List.Forall₂ (fun item text => item.encode kind = .ok text) items texts ∧
      Decoded decodeItem texts agains := by
  induction reads with
  | nil => exact ⟨[], .nil, .nil⟩
  | cons first _ ih =>
    obtain ⟨text, encoded, decoded⟩ := first
    obtain ⟨texts, written, read⟩ := ih
    exact ⟨text :: texts, .cons encoded written, .cons decoded read⟩

@[simp] theorem rowTokens_nil (row : List Value) : rowTokens [] row = .ok [] := by
  rw [rowTokens.eq_def]

theorem rowTokens_cons (spec : OptionSpec) (specs : List OptionSpec) (value : Value)
    (values : List Value) :
    rowTokens (spec :: specs) (value :: values) = (do
      let own ← spec.tokens value
      let more ← rowTokens specs values
      return own ++ more) := by
  rw [rowTokens.eq_def]
  unfold OptionSpec.tokens
  dsimp only
  split
  · cases value with
    | object id rows => cases id <;> rfl
    | _ => rfl
  · split <;> rfl

theorem rowTokens_cons_ok {spec : OptionSpec} {specs : List OptionSpec} {value : Value}
    {values : List Value} {own more : List String} (first : spec.tokens value = .ok own)
    (rest : rowTokens specs values = .ok more) :
    rowTokens (spec :: specs) (value :: values) = .ok (own ++ more) := by
  rw [rowTokens_cons, first, rest]
  rfl

theorem rowTokens_eq_ok {spec : OptionSpec} {specs : List OptionSpec} {value : Value}
    {row : List Value} {tokens : List String}
    (written : rowTokens (spec :: specs) (value :: row) = .ok tokens) :
    ∃ own more, spec.tokens value = .ok own ∧ rowTokens specs row = .ok more ∧
      tokens = own ++ more := by
  rw [rowTokens_cons] at written
  obtain ⟨own, first, written⟩ := bind_eq_ok.mp written
  obtain ⟨more, rest, same⟩ := bind_eq_ok.mp written
  exact ⟨own, more, first, rest, (Except.ok.inj same).symm⟩

@[simp] theorem levelTokens_nil (rows : List (List Value)) : levelTokens [] rows = .ok [] := by
  rw [levelTokens.eq_def]

theorem levelTokens_cons_ok {level : Level} {levels : List Level} {row : List Value}
    {rows : List (List Value)} {own above : List String}
    (first : rowTokens level.options row = .ok own) (rest : levelTokens levels rows = .ok above) :
    levelTokens (level :: levels) (row :: rows) = .ok (own ++ above) := by
  rw [levelTokens, first, rest]
  rfl

theorem levelTokens_eq_ok {level : Level} {levels : List Level} {row : List Value}
    {rows : List (List Value)} {tokens : List String}
    (written : levelTokens (level :: levels) (row :: rows) = .ok tokens) :
    ∃ own above, rowTokens level.options row = .ok own ∧ levelTokens levels rows = .ok above ∧
      tokens = own ++ above := by
  rw [levelTokens] at written
  obtain ⟨own, first, written⟩ := bind_eq_ok.mp written
  obtain ⟨above, rest, same⟩ := bind_eq_ok.mp written
  exact ⟨own, above, first, rest, (Except.ok.inj same).symm⟩

end Value

namespace OptionSpec

theorem filterMap_encode {kind : Kind} {items : List Value} {texts : List String}
    (encoded : List.Forall₂ (fun item text => item.encode kind = .ok text) items texts) :
    items.filterMap (fun part => (part.encode kind).toOption) = texts := by
  induction encoded with
  | nil => rfl
  | cons first _ ih => rw [List.filterMap_cons, first, Except.toOption, ih]

/-- The tokens that an option writes for a value. Only an array or a flag can leave none. -/
inductive Emits (spec : OptionSpec) : Value → List String → Prop where
  | single {value : Value} {text : String} (single : spec.isArray = false)
      (valued : spec.kind ≠ .flag) (encoded : value.encode spec.kind = .ok text) :
      Emits spec value [announce spec.flag, text]
  | set (single : spec.isArray = false) (flag : spec.kind = .flag) :
      Emits spec (.bool true) [announce spec.flag]
  | unset (single : spec.isArray = false) (flag : spec.kind = .flag) : Emits spec (.bool false) []
  | array {value : Value} {items : List Value} {texts : List String} (array : spec.isArray = true)
      (valued : spec.kind ≠ .flag) (sequence : value = .list items ∨ value = .tuple items)
      (encoded : List.Forall₂ (fun item text => item.encode spec.kind = .ok text) items texts) :
      Emits spec value (pairs spec.flag texts)

variable {spec : OptionSpec} {value : Value} {own : List String}

theorem not_seeks_single (single : spec.isArray = false) (valued : spec.kind ≠ .flag) :
    ¬spec.Seeks value := by
  simp [Seeks, single, valued]

theorem not_seeks_set (single : spec.isArray = false) : ¬spec.Seeks (.bool true) := by
  simp [Seeks, single, Value.isTruthy]

theorem tokens_single (single : spec.isArray = false) (valued : spec.kind ≠ .flag) :
    spec.tokens value = (value.encode spec.kind).map fun text => [announce spec.flag, text] := by
  simp [tokens, single, valued]

theorem tokens_array (array : spec.isArray = true) {items : List Value}
    (sequence : value = .list items ∨ value = .tuple items) :
    spec.tokens value = Value.itemTokens spec.flag spec.kind items := by
  obtain rfl | rfl := sequence <;> simp [tokens, array]

theorem Emits.tokens_eq (emits : spec.Emits value own) : spec.tokens value = .ok own := by
  cases emits with
  | single single valued encoded => rw [tokens_single single valued, encoded]; rfl
  | set single flag => simp [tokens, single, flag, Value.isTruthy]
  | unset single flag => simp [tokens, single, flag, Value.isTruthy]
  | array array valued sequence encoded =>
    rw [tokens_array array sequence]
    exact Value.itemTokens_eq_ok.mpr ⟨_, encoded, rfl⟩

theorem Emits.mem_valueTexts (emits : spec.Emits value own) {token : String}
    (member : token ∈ own) :
    (token = announce spec.flag ∧ (spec.kind = .flag → value.isTruthy = true)) ∨
      token ∈ spec.valueTexts value := by
  cases emits with
  | @single _ text single valued encoded =>
    have texts : spec.valueTexts value = [text] := by
      simp [valueTexts, valued, single, encoded, Except.toOption]
    obtain rfl | rfl : token = announce spec.flag ∨ token = text := by simpa using member
    · exact .inl ⟨rfl, fun flag => absurd flag valued⟩
    · exact .inr (by simp [texts])
  | set => exact .inl ⟨List.mem_singleton.mp member, fun _ => rfl⟩
  | unset => simp at member
  | array array valued sequence encoded =>
    obtain ⟨text, inside, member⟩ := List.mem_flatMap.mp member
    obtain rfl | rfl : token = announce spec.flag ∨ token = text := by simpa using member
    · exact .inl ⟨rfl, fun flag => absurd flag valued⟩
    · right
      simpa only [valueTexts, valued, if_false, array, if_true, Value.parts_of_sequence sequence,
        filterMap_encode encoded] using inside

theorem Emits.valueTexts_subset (emits : spec.Emits value own) : spec.valueTexts value ⊆ own := by
  intro text member
  cases emits with
  | single single valued encoded =>
    obtain rfl : text = _ := by
      simpa [valueTexts, valued, single, encoded, Except.toOption] using member
    simp
  | set _ flag | unset _ flag => simp [valueTexts, flag] at member
  | @array _ _ texts array valued sequence encoded =>
    have inside : text ∈ texts := by
      simpa only [valueTexts, valued, if_false, array, if_true, Value.parts_of_sequence sequence,
        filterMap_encode encoded] using member
    exact List.mem_flatMap.mpr ⟨text, inside, by simp⟩

end OptionSpec

end OptionProtocol
