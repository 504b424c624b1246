import OptionProtocol.Proofs.Handler.Announcing
import OptionProtocol.Proofs.Handler.Assigning
import OptionProtocol.Proofs.Handler.Nesting

/-! What is known of a new object that took its options. Every value was read from a token that
the options before it had left, or is the default, and whatever an array or an unset flag was
looking for is gone from the tokens behind. Only paths can be written like a token that none of
the texts read was, since they are normalised. -/

set_option autoImplicit false

namespace OptionProtocol

open TokenSequence

/-- The texts of the paths among some values. -/
def pathTexts (values : List Value) : List String :=
  values.flatMap fun value => value.parts.filterMap fun part =>
    match part with
    | .path path => some path.text
    | _ => none

theorem mem_pathTexts {values : List Value} {text : String} :
    text ∈ pathTexts values ↔
      ∃ value ∈ values, ∃ path : FilePath, .path path ∈ value.parts ∧ path.text = text := by
  simp only [pathTexts, List.mem_flatMap, List.mem_filterMap]
  constructor
  · rintro ⟨value, member, part, inside, shown⟩
    cases part with
    | path path => exact ⟨value, member, path, inside, Option.some.inj shown⟩
    | _ => simp at shown
  · rintro ⟨value, member, path, inside, rfl⟩
    exact ⟨value, member, .path path, inside, rfl⟩

/-- No path behind an option that looks beyond its own tokens is written like its announcement.
The values of the levels above stand behind the row. -/
def PathsApart : List OptionSpec → List Value → List Value → Prop
  | spec :: specs, value :: values, above =>
      (spec.Seeks value → announce spec.flag ∉ pathTexts (values ++ above)) ∧
        PathsApart specs values above
  | _, _, _ => True

def LevelsPathsApart : List Level → List (List Value) → Prop
  | level :: levels, row :: rows =>
      PathsApart level.options row rows.flatten ∧ LevelsPathsApart levels rows
  | _, _ => True

namespace Handler

/-- No path of the handler is written like the announcement of an option that looks for it. -/
def PathsApart (handler : Handler) : Prop := LevelsPathsApart handler.id.levels handler.rows

/-- A valid handler that only a path could make ambiguous. -/
structure Sound (handler : Handler) : Prop where
  valid : handler.Valid
  unambiguous : handler.PathsApart → handler.Unambiguous

end Handler

/-- What is known of the value of an option that was read from some of the texts. -/
structure OptionSpec.Settled (spec : OptionSpec) (texts : List String) (value : Value) : Prop where
  fits : spec.Fits value
  accepted : spec.accepts value = .ok true
  inner : ∀ handler : Handler, handler.toValue ∈ value.parts → handler.Throughout Handler.Sound
  contents : ∀ content, .text content ∈ value.parts →
    content ∈ texts ∨ content.toList.head? ≠ some '-'
  announced : spec.kind = .flag → value.isTruthy = true → announce spec.flag ∈ texts

/-- An option whose default is settled without any text. A flag has no constraint and no need
of a default, and objects are handlers. -/
structure OptionSpec.Regular (spec : OptionSpec) : Prop where
  default : spec.kind ≠ .flag → spec.Settled [] spec.default
  flag : spec.kind = .flag → spec.isArray = false ∧ spec.constraint = none
  base : spec.kind = .object → ∃ base, spec.base = some base ∧ base.isHandler = true

/-- Whatever is read from the text where a handler is asked for is sound throughout. -/
def SoundReads (raw : String) : Prop :=
  ∀ base : ClassId, base.isHandler = true → ∀ flag value,
    (readObject (some base) flag raw).result = .ok value →
      ∃ handler : Handler, value = handler.toValue ∧ handler.id.derivesFrom base = true ∧
        handler.Throughout Handler.Sound

namespace OptionSpec

variable {spec : OptionSpec}

theorem Settled.mono {texts more : List String} {value : Value}
    (settled : spec.Settled texts value) (subset : texts ⊆ more) : spec.Settled more value where
  fits := settled.fits
  accepted := settled.accepted
  inner := settled.inner
  contents content member := (settled.contents content member).imp_left (subset ·)
  announced flag set := subset (settled.announced flag set)

/-- A value read from a single text. -/
structure ReadFrom (spec : OptionSpec) (raw : String) (value : Value) : Prop where
  kind : value.OfKind spec.base spec.kind
  inner : ∀ handler : Handler, value = handler.toValue → handler.Throughout Handler.Sound
  content : ∀ content, value = .text content → content = raw

theorem Regular.readFrom (regular : spec.Regular) {raw : String} (sound : SoundReads raw)
    {value : Value}
    (decoded : (decode readObject raw spec.kind (some spec.flag) spec.base).result = .ok value) :
    spec.ReadFrom raw value := by
  obtain ⟨field, flag, kind, isArray, default, base, constraint, tip⟩ := spec
  have simple {value : Value} (plain : ∀ handler : Handler, value ≠ handler.toValue)
      (text : ∀ content, value ≠ .text content) (ofKind : value.OfKind base kind) :
      ReadFrom ⟨field, flag, kind, isArray, default, base, constraint, tip⟩ raw value :=
    ⟨ofKind, fun handler same => absurd same (plain handler),
      fun content same => absurd same (text content)⟩
  simp only at decoded
  cases kind with
  | integer | long =>
    cases read : Number.readInt? raw with
    | none => simp [decode, read, Attempt.fail] at decoded
    | some n =>
      have writable := Number.isWritable_of_readInt? read
      obtain rfl : Value.int n = value := by simpa [decode, read, Attempt.done] using decoded
      apply simple (by simp [Handler.toValue]) (by simp)
      constructor
      exact writable
  | float | double =>
    cases read : Number.readFloat? raw with
    | none => simp [decode, read, Attempt.fail] at decoded
    | some x =>
      obtain rfl : Value.float x = value := by simpa [decode, read, Attempt.done] using decoded
      apply simple (by simp [Handler.toValue]) (by simp)
      constructor
  | text =>
    obtain rfl : Value.text raw = value := Except.ok.inj decoded
    refine ⟨.text raw, by simp [Handler.toValue], ?_⟩
    intro content same
    exact (Value.text.inj same).symm
  | path =>
    obtain rfl : Value.path (.ofString raw) = value := Except.ok.inj decoded
    exact simple (by simp [Handler.toValue]) (by simp) (.path (FilePath.isProper_ofString raw))
  | flag => cases decoded
  | object =>
    obtain ⟨required, based, isHandler⟩ := regular.base rfl
    simp only at based
    subst based
    obtain ⟨handler, rfl, derives, throughout⟩ := sound required isHandler (some flag) value decoded
    refine ⟨.object handler.rows ?_, ?_, by simp [Handler.toValue]⟩
    · intro other same
      cases same
      exact derives
    · intro other same
      rw [← Handler.toValue_injective same]
      exact throughout

theorem ReadFrom.settled {raw : String} {value : Value} (read : spec.ReadFrom raw value)
    (single : spec.isArray = false) (accepted : spec.accepts value = .ok true)
    {texts : List String} (member : raw ∈ texts) : spec.Settled texts value where
  fits := .single single read.kind
  accepted := accepted
  inner handler part := by
    rw [read.kind.parts_eq, List.mem_singleton] at part
    exact read.inner handler part.symm
  contents content part := by
    rw [read.kind.parts_eq, List.mem_singleton] at part
    rw [read.content content part.symm]
    exact .inl member
  announced flag := absurd flag read.kind.ne_flag

theorem Settled.of_sequence {texts : List String} (items : List Value) {value : Value}
    (array : spec.isArray = true) (valued : spec.kind ≠ .flag)
    (sequence : value = .list items ∨ value = .tuple items)
    (traced : items = [] → spec.default.items = .ok []) (accepted : spec.accepts value = .ok true)
    (kinds : ∀ item ∈ items, item.OfKind spec.base spec.kind)
    (inner : ∀ handler : Handler, handler.toValue ∈ items → handler.Throughout Handler.Sound)
    (contents : ∀ content, .text content ∈ items →
      content ∈ texts ∨ content.toList.head? ≠ some '-') : spec.Settled texts value := by
  have parts := Value.parts_of_sequence sequence
  refine ⟨.array array valued sequence kinds traced, accepted, ?_, ?_,
    fun flag => absurd flag valued⟩
  · rwa [parts]
  · rwa [parts]

theorem Settled.of_items {texts : List String} {items : List Value} (array : spec.isArray = true)
    (valued : spec.kind ≠ .flag) (filled : items ≠ [])
    (accepted : spec.accepts (.list items) = .ok true)
    (each : ∀ item ∈ items, ∃ raw ∈ texts, spec.ReadFrom raw item) :
    spec.Settled texts (.list items) := by
  apply Settled.of_sequence items array valued (.inl rfl) (absurd · filled) accepted
  · intro item member
    obtain ⟨raw, _, read⟩ := each item member
    exact read.kind
  · intro handler member
    obtain ⟨raw, _, read⟩ := each _ member
    exact read.inner handler rfl
  · intro content member
    obtain ⟨raw, inside, read⟩ := each _ member
    rw [read.content content rfl]
    exact .inl inside

theorem Settled.copyDefault {texts : List String} {default copy : Value}
    (settled : spec.Settled texts default) (array : spec.isArray = true)
    (copied : TokenSequence.copyDefault default = .ok copy)
    (accepted : spec.accepts copy = .ok true) : spec.Settled texts copy := by
  cases settled.fits with
  | single single => simp [single] at array
  | flag single => simp [single] at array
  | @array _ items _ valued sequence kinds traced =>
    have parts := Value.parts_of_sequence sequence
    obtain rfl : .list items = copy := by
      obtain rfl | rfl := sequence <;> exact Except.ok.inj copied
    apply Settled.of_sequence items array valued (.inl rfl) traced accepted kinds
    · rw [← parts]
      exact settled.inner
    · rw [← parts]
      exact settled.contents

theorem Regular.parse_flag (regular : spec.Regular) (flag : spec.kind = .flag)
    {s : TokenSequence} {new kept : Value} (read : (spec.parse readObject s).1.result = .ok new)
    (keeps : spec.Keeps spec.default new kept) :
    spec.Settled s.remaining kept ∧
      (spec.Seeks kept → announce spec.flag ∉ (spec.parse readObject s).2.remaining) := by
  obtain ⟨single, free⟩ := regular.flag flag
  have accepts (value : Value) : spec.accepts value = .ok true := by simp [OptionSpec.accepts, free]
  obtain rfl := keeps.eq_new (accepts new)
  have settled (isSet : Bool) (seen : isSet = true → announce spec.flag ∈ s.remaining) :
      spec.Settled s.remaining (.bool isSet) :=
    ⟨.flag single flag isSet, accepts _, by simp [Value.parts, Handler.toValue],
      by simp [Value.parts], fun _ set => seen set⟩
  cases taken : takeFirst? spec.flag s.tokens with
  | some after =>
    rw [parse_set readObject single flag taken] at read ⊢
    cases read
    obtain ⟨before, behind, whole, _⟩ := remaining_takeFirst? taken
    have seen : announce spec.flag ∈ s.remaining := by
      change announce spec.flag ∈ TokenSequence.remaining ⟨s.tokens⟩
      simp [whole]
    exact ⟨settled true fun _ => seen, fun seeks => absurd seeks (not_seeks_set single)⟩
  | none =>
    rw [parse_unset readObject single flag taken] at read ⊢
    cases read
    exact ⟨settled false (by simp), fun _ => takeFirst?_eq_none_iff.mp taken⟩

theorem Regular.parse_single (regular : spec.Regular) (single : spec.isArray = false)
    (valued : spec.kind ≠ .flag) {s : TokenSequence}
    (sound : ∀ raw ∈ s.remaining, SoundReads raw) {new kept : Value}
    (read : (spec.parse readObject s).1.result = .ok new)
    (keeps : spec.Keeps spec.default new kept) : spec.Settled s.remaining kept := by
  have default : spec.Settled s.remaining spec.default :=
    (regular.default valued).mono (List.nil_subset _)
  cases keeps with
  -- A value that was turned down leaves the default in place.
  | old => exact default
  | new accepted =>
    cases taken : takePair spec.flag s.tokens with
    | absent =>
      rw [parse_absent readObject single valued taken] at read
      cases read
      exact default
    | valueless =>
      rw [parse_valueless readObject single valued taken] at read
      cases read
    | value raw after =>
      rw [parse_value readObject single valued taken] at read
      have member : raw ∈ s.remaining := (sublist_of_takePair taken).2
      exact (regular.readFrom (sound raw member) read).settled single accepted member

theorem Regular.parse_array (regular : spec.Regular) (array : spec.isArray = true)
    (valued : spec.kind ≠ .flag) {s : TokenSequence}
    (sound : ∀ raw ∈ s.remaining, SoundReads raw) {new kept : Value}
    (read : (spec.parse readObject s).1.result = .ok new)
    (keeps : spec.Keeps spec.default new kept) :
    spec.Settled s.remaining kept ∧
      announce spec.flag ∉ (spec.parse readObject s).2.remaining := by
  have default : spec.Settled s.remaining spec.default :=
    (regular.default valued).mono (List.nil_subset _)
  obtain ⟨items, collected, found⟩ := parse_array_ok array valued read
  obtain ⟨raws, decoded, members, absent⟩ := collect_ok collected
  refine ⟨?_, by rwa [parse_array_tokens array valued]⟩
  cases keeps with
  | old => exact default
  | new accepted =>
    obtain ⟨_, copied⟩ | ⟨filled, rfl⟩ := found
    · exact default.copyDefault array copied accepted
    · apply Settled.of_items array valued filled accepted
      intro item member
      obtain ⟨raw, inside, decoded⟩ := decoded.exists_of_mem member
      have left := members raw inside
      exact ⟨raw, left, regular.readFrom (sound raw left) decoded⟩

/-- What one option makes of the tokens left: a settled value, and nothing more to be found
where it looks beyond its own tokens. -/
theorem Regular.parse (regular : spec.Regular) {s : TokenSequence}
    (sound : ∀ raw ∈ s.remaining, SoundReads raw) {new kept : Value}
    (read : (spec.parse readObject s).1.result = .ok new)
    (keeps : spec.Keeps spec.default new kept) :
    spec.Settled s.remaining kept ∧
      (spec.Seeks kept → announce spec.flag ∉ (spec.parse readObject s).2.remaining) := by
  by_cases flag : spec.kind = .flag
  · exact regular.parse_flag flag read keeps
  · cases array : spec.isArray with
    | true =>
      obtain ⟨settled, absent⟩ := regular.parse_array array flag sound read keeps
      exact ⟨settled, fun _ => absent⟩
    | false =>
      exact ⟨regular.parse_single array flag sound read keeps,
        fun seeks => absurd seeks (not_seeks_single array flag)⟩

end OptionSpec

/-- What is known of a row that was read from the texts and left some of them behind. -/
inductive RowSettled : List OptionSpec → List String → List Value → List String → Prop where
  | nil (texts : List String) : RowSettled [] texts [] texts
  | cons {spec : OptionSpec} {specs : List OptionSpec} {value : Value} {row : List Value}
      {texts middle left : List String} (settled : spec.Settled texts value)
      (sought : spec.Seeks value → announce spec.flag ∉ middle) (fewer : middle ⊆ texts)
      (rest : RowSettled specs middle row left) :
      RowSettled (spec :: specs) texts (value :: row) left

/-- The same for rows of which each was read from what the row before it left. -/
inductive LevelsSettled : List Level → List String → List (List Value) → Prop where
  | nil (texts : List String) : LevelsSettled [] texts []
  | cons {level : Level} {levels : List Level} {row : List Value} {rows : List (List Value)}
      {texts middle : List String} (first : RowSettled level.options texts row middle)
      (above : LevelsSettled levels middle rows) :
      LevelsSettled (level :: levels) texts (row :: rows)

theorem rowSettled_of_assignRow {specs : List OptionSpec}
    (regular : ∀ spec ∈ specs, spec.Regular) {s : TokenSequence}
    (sound : ∀ raw ∈ s.remaining, SoundReads raw)
    (done : (assignRow readObject specs (specs.map OptionSpec.default) s).fault = none) :
    RowSettled specs s.remaining
      (assignRow readObject specs (specs.map OptionSpec.default) s).row
      (assignRow readObject specs (specs.map OptionSpec.default) s).tokens.remaining := by
  induction specs generalizing s with
  | nil => exact .nil _
  | cons spec specs ih =>
    rw [List.map_cons] at done ⊢
    obtain ⟨fault, _, run⟩ | ⟨new, kept, rejected, read, keeps, run⟩ :=
      assignRow_cons_cases readObject spec specs spec.default (specs.map OptionSpec.default) s
    · simp [run] at done
    · obtain ⟨here, regular⟩ := List.forall_mem_cons.mp regular
      obtain ⟨settled, sought⟩ := here.parse sound read keeps
      have fewer := (spec.remaining_parse readObject s).subset
      rw [run] at done ⊢
      have rest := ih regular (fun raw member => sound raw (fewer member)) done
      exact .cons settled sought fewer rest

theorem levelsSettled_of_assignLevels {levels : List Level}
    (regular : ∀ level ∈ levels, ∀ spec ∈ level.options, spec.Regular) {texts left : List String}
    (sound : ∀ raw ∈ texts, SoundReads raw)
    (done :
      (assignLevels readObject levels (levels.map Level.defaults) texts).leftover = .ok left) :
    LevelsSettled levels texts
      (assignLevels readObject levels (levels.map Level.defaults) texts).rows := by
  induction levels generalizing texts with
  | nil => exact .nil _
  | cons level levels ih =>
    have all : (ofTexts texts).remaining = texts := remaining_unmarked texts
    rw [List.map_cons] at done ⊢
    unfold assignLevels at done ⊢
    cases fault : (assignRow readObject level.options level.defaults (ofTexts texts)).fault with
    | some fault' => simp [fault] at done
    | none =>
      obtain ⟨here, regular⟩ := List.forall_mem_cons.mp regular
      -- What the level leaves is all that the levels above it are read from.
      have first := rowSettled_of_assignRow here (fun raw member => sound raw (all ▸ member)) fault
      have fewer := (remaining_assignRow readObject level.options level.defaults
        (ofTexts texts)).subset
      rw [all] at first fewer
      simp only [fault] at done ⊢
      have above := ih regular (fun raw member => sound raw (fewer member)) done
      exact .cons first above

end OptionProtocol
