import OptionProtocol.Proofs.Handler.Judging
import OptionProtocol.Proofs.Handler.Overwriting

/-! Which faults escape. Whoever reads an option is prepared for malformed values, and reading comes
to another fault in one way only: a class name that is to be resolved, at whatever depth, begins
with a dot. The run of an assignment tells which texts it comes to decode, and a fault that is no
malformed value comes from one of those. -/

set_option autoImplicit false

namespace OptionProtocol

open TokenSequence

/-- The fault is a malformed value. -/
def OptionFault.IsMalformed (fault : OptionFault) : Prop :=
  ∃ flag value cause, fault = .malformed flag value cause

section

variable (decodeItem : String → Attempt Value) (flag : String)

/-- Reading all occurrences of an option comes to decode the text: the first that it takes, or one
behind items that could be read. -/
inductive ItemsDecode : List Token → String → Prop where
  | first {tokens after : List Token} {raw : String}
      (taken : takePair flag tokens = .value raw after) : ItemsDecode tokens raw
  | later {tokens after : List Token} {raw text : String} {item : Value}
      (taken : takePair flag tokens = .value raw after) (read : (decodeItem raw).result = .ok item)
      (next : ItemsDecode after text) : ItemsDecode tokens text

end

section

variable (reader : ObjectReader)

/-- Reading an option comes to decode the text. -/
inductive OptionSpec.Decodes (spec : OptionSpec) (s : TokenSequence) : String → Prop where
  | value (single : spec.isArray = false) (valued : spec.kind ≠ .flag) {raw : String}
      {after : List Token} (taken : takePair spec.flag s.tokens = .value raw after) :
      Decodes spec s raw
  | item (array : spec.isArray = true) (valued : spec.kind ≠ .flag) {raw : String}
      (decoded : ItemsDecode (fun raw => decode reader raw spec.kind (some spec.flag) spec.base)
        spec.flag s.tokens raw) : Decodes spec s raw

/-- Assigning the options of a level comes to decode the text for one of them. -/
inductive RowDecodes : List OptionSpec → TokenSequence → OptionSpec → String → Prop where
  | here {spec : OptionSpec} {specs : List OptionSpec} {s : TokenSequence} {raw : String}
      (decodes : spec.Decodes reader s raw) : RowDecodes (spec :: specs) s spec raw
  | later {spec other : OptionSpec} {specs : List OptionSpec} {s : TokenSequence} {raw : String}
      {new : Value} {verdict : Bool} (read : (spec.parse reader s).1.result = .ok new)
      (judged : spec.accepts new = .ok verdict)
      (rest : RowDecodes specs (spec.parse reader s).2 other raw) :
      RowDecodes (spec :: specs) s other raw

/-- Assigning the options of all levels comes to decode the text for one of them. -/
inductive LevelsDecode :
    List Level → List (List Value) → List String → OptionSpec → String → Prop where
  | own {level : Level} {levels : List Level} {row : List Value} {rows : List (List Value)}
      {tokens : List String} {spec : OptionSpec} {raw : String}
      (decodes : RowDecodes reader level.options (ofTexts tokens) spec raw) :
      LevelsDecode (level :: levels) (row :: rows) tokens spec raw
  | above {level : Level} {levels : List Level} {row : List Value} {rows : List (List Value)}
      {tokens : List String} {spec : OptionSpec} {raw : String}
      (done : (assignRow reader level.options row (ofTexts tokens)).fault = none)
      (rest : LevelsDecode levels rows
        (assignRow reader level.options row (ofTexts tokens)).tokens.remaining spec raw) :
      LevelsDecode (level :: levels) (row :: rows) tokens spec raw

end

/-- The command line begins with the name of a class, with the options behind. -/
structure Begins (line name : String) (options : List String) : Prop where
  filled : Text.isAllBlank line = false
  split : CommandLine.tokens line = .ok (name :: options)

/-- The name is that of a class that an object of the base can be made of. -/
structure Makes (base : Option ClassId) (name : String) (id : ClassId) : Prop where
  resolved : Catalogue.resolve name = .ok (.classRef id)
  derives : ∀ required ∈ base, id.derivesFrom required = true
  possible : id.instantiationFault? = none

/-- Reading an object of the base from the command line comes to resolve the class name: that of
the object itself, or one on the way to an object that one of its options holds. -/
inductive Resolves : Option ClassId → String → String → Prop where
  | own {base : Option ClassId} {line name : String} {options : List String}
      (begins : Begins line name options) : Resolves base line name
  | inner {base : Option ClassId} {line outer name raw : String} {options : List String}
      {id : ClassId} {spec : OptionSpec} (begins : Begins line outer options)
      (makes : Makes base outer id) (isHandler : id.isHandler = true)
      (decodes : LevelsDecode readObject id.levels id.defaultRows options spec raw)
      (object : spec.kind = .object) (resolves : Resolves spec.base raw name) :
      Resolves base line name

section

variable {fault : OptionFault} (foreign : ¬fault.IsMalformed)

include foreign

theorem malformed_ne {flag value : Option String} {cause : Malformation} :
    OptionFault.malformed flag value cause ≠ fault :=
  fun same => foreign ⟨_, _, _, same.symm⟩

theorem collect_eq_error_iff {decodeItem : String → Attempt Value} {flag : String}
    {tokens : List Token} :
    (collect decodeItem flag tokens).1.result = .error fault ↔
      ∃ raw, ItemsDecode decodeItem flag tokens raw ∧ (decodeItem raw).result = .error fault := by
  cases taken : takePair flag tokens with
  | absent =>
    rw [collect_absent (takePair_eq_absent_iff.mp taken)]
    refine iff_of_false (by simp [Attempt.done]) ?_
    rintro ⟨raw, decoded, _⟩
    cases decoded <;> simp_all
  | valueless =>
    rw [collect_valueless taken]
    refine iff_of_false (mt Except.error.inj (malformed_ne foreign)) ?_
    rintro ⟨raw, decoded, _⟩
    cases decoded <;> simp_all
  | value text after =>
    have rest : (collect decodeItem flag after).1.result = .error fault ↔ _ := collect_eq_error_iff
    rw [collect_value taken]
    constructor
    · intro failed
      cases item : (decodeItem text).result with
      | error other =>
        simp only [item, Except.error.injEq] at failed
        exact ⟨text, .first taken, by rw [item, failed]⟩
      | ok value =>
        simp only [item, map_eq_error] at failed
        obtain ⟨raw, decoded, unread⟩ := rest.mp failed
        exact ⟨raw, .later taken item decoded, unread⟩
    · rintro ⟨raw, decoded, unread⟩
      cases decoded with
      | first other =>
        obtain ⟨rfl, rfl⟩ : text = raw ∧ after = _ := by simpa [taken] using other
        simp [unread]
      | @later _ later first _ value other read next =>
        obtain ⟨rfl, rfl⟩ : text = first ∧ after = later := by simpa [taken] using other
        simp only [read, map_eq_error]
        exact rest.mpr ⟨raw, next, unread⟩
termination_by freeCount tokens
decreasing_by have := freeCount_takePair taken; omega

/-- Only an object can be read with a fault that is no malformed value. -/
theorem decode_eq_error_iff {reader : ObjectReader} {raw : String} {kind : Kind}
    {flag : Option String} {base : Option ClassId} (valued : kind ≠ .flag) :
    (decode reader raw kind flag base).result = .error fault ↔
      kind = .object ∧ (reader base flag raw).result = .error fault := by
  cases kind with
  | integer | long =>
    simp only [decode]
    cases Number.readInt? raw <;> simp [Attempt.fail, Attempt.done, malformed_ne foreign]
  | float | double =>
    simp only [decode]
    cases Number.readFloat? raw <;> simp [Attempt.fail, Attempt.done, malformed_ne foreign]
  | text | path => simp [decode, Attempt.done]
  | object => simp [decode]
  | flag => exact absurd rfl valued

namespace OptionSpec

variable {spec : OptionSpec} {s : TokenSequence}

omit foreign in
/-- The constraint has an answer for what is read, so whatever stops at an option has not read it. -/
theorem Regular.unread_of_stops (regular : spec.Regular) (judged : spec.Judged)
    (stops : spec.Stops (spec.parse readObject s).1.result fault) :
    (spec.parse readObject s).1.result = .error fault := by
  cases result : (spec.parse readObject s).1.result with
  | error other =>
    rw [result] at stops
    cases stops
    rfl
  | ok new =>
    obtain ⟨verdict, accepts⟩ := regular.exists_accepts_of_parse judged result
    rw [result] at stops
    cases stops with
    | unsettled refused => simp [accepts] at refused

omit foreign in
theorem Regular.exists_copyDefault (regular : spec.Regular) (array : spec.isArray = true)
    (valued : spec.kind ≠ .flag) : ∃ copy, copyDefault spec.default = .ok copy := by
  have fits := (regular.default valued).fits
  generalize spec.default = default at fits ⊢
  cases fits with
  | single single => simp [single] at array
  | flag single => simp [single] at array
  | array _ _ sequence => obtain rfl | rfl := sequence <;> exact ⟨_, rfl⟩

omit foreign in
-- The default of an array has items to copy, so only the items that are read can be at fault.
theorem Regular.parse_array_eq_error_iff (regular : spec.Regular) (array : spec.isArray = true)
    (valued : spec.kind ≠ .flag) :
    (spec.parse readObject s).1.result = .error fault ↔
      (collect (fun raw => decode readObject raw spec.kind (some spec.flag) spec.base)
        spec.flag s.tokens).1.result = .error fault := by
  obtain ⟨copy, copied⟩ := regular.exists_copyDefault array valued
  simp only [OptionSpec.parse, array, parseArray, valued, if_true, if_false]
  cases (collect (fun raw => decode readObject raw spec.kind (some spec.flag) spec.base)
      spec.flag s.tokens).1.result with
  | error other => simp
  | ok items => cases items <;> simp [copied]

theorem Regular.parse_eq_error_iff (regular : spec.Regular) :
    (spec.parse readObject s).1.result = .error fault ↔
      ∃ raw, spec.Decodes readObject s raw ∧
        (decode readObject raw spec.kind (some spec.flag) spec.base).result = .error fault := by
  by_cases flag : spec.kind = .flag
  · have single := (regular.flag flag).1
    refine iff_of_false ?_ ?_
    · cases taken : takeFirst? spec.flag s.tokens with
      | none => simp [parse_unset readObject single flag taken, Attempt.done]
      | some after => simp [parse_set readObject single flag taken, Attempt.done]
    · rintro ⟨raw, decodes, _⟩
      cases decodes <;> contradiction
  · cases array : spec.isArray with
    | false =>
      cases taken : takePair spec.flag s.tokens with
      | absent =>
        rw [parse_absent readObject array flag taken]
        refine iff_of_false (by simp [Attempt.done]) ?_
        rintro ⟨raw, decodes, _⟩
        cases decodes <;> simp_all
      | valueless =>
        rw [parse_valueless readObject array flag taken]
        refine iff_of_false (mt Except.error.inj (malformed_ne foreign)) ?_
        rintro ⟨raw, decodes, _⟩
        cases decodes <;> simp_all
      | value raw after =>
        rw [parse_value readObject array flag taken]
        refine ⟨fun failed => ⟨raw, .value array flag taken, failed⟩, ?_⟩
        rintro ⟨other, decodes, failed⟩
        cases decodes <;> simp_all
    | true =>
      rw [regular.parse_array_eq_error_iff array flag, collect_eq_error_iff foreign]
      constructor
      · rintro ⟨raw, decoded, failed⟩
        exact ⟨raw, .item array flag decoded, failed⟩
      · rintro ⟨raw, decodes, failed⟩
        cases decodes with
        | value single => simp [single] at array
        | item _ _ decoded => exact ⟨raw, decoded, failed⟩

end OptionSpec

/-- A row stops with such a fault at a text that it comes to decode. -/
theorem assignRow_fault_iff {specs : List OptionSpec} (regular : ∀ spec ∈ specs, spec.Regular)
    (judged : ∀ spec ∈ specs, spec.Judged) {row : List Value}
    (filled : row.length = specs.length) {s : TokenSequence} :
    (assignRow readObject specs row s).fault = some fault ↔
      ∃ spec raw, RowDecodes readObject specs s spec raw ∧
        (decode readObject raw spec.kind (some spec.flag) spec.base).result = .error fault := by
  induction specs generalizing row s with
  | nil =>
    refine iff_of_false ?_ ?_
    · cases row <;> simp [assignRow]
    · rintro ⟨_, _, decodes, _⟩
      cases decodes
  | cons spec specs ih =>
    obtain ⟨old, row, rfl⟩ := List.exists_cons_of_length_eq_add_one filled
    obtain ⟨first, regular⟩ := List.forall_mem_cons.mp regular
    obtain ⟨judges, judged⟩ := List.forall_mem_cons.mp judged
    obtain ⟨other, stops, run⟩ | ⟨new, kept, rejected, read, keeps, run⟩ :=
      assignRow_cons_cases readObject spec specs old row s
    · have unread := first.unread_of_stops judges stops
      have here := first.parse_eq_error_iff foreign (s := s)
      rw [unread] at here
      simp only [run, Option.some.injEq]
      rw [← Except.error.injEq (ε := OptionFault) (α := Value), here]
      constructor
      · rintro ⟨raw, decodes, failed⟩
        exact ⟨spec, raw, .here decodes, failed⟩
      · rintro ⟨_, raw, decodes, failed⟩
        cases decodes with
        | here decodes => exact ⟨raw, decodes, failed⟩
        | later read => simp [unread] at read
    · have rest := ih regular judged (Nat.succ.inj filled) (s := (spec.parse readObject s).2)
      rw [run]
      change (assignRow readObject specs row (spec.parse readObject s).2).fault = some fault ↔ _
      rw [rest]
      constructor
      · rintro ⟨other, raw, decodes, failed⟩
        obtain ⟨verdict, accepts⟩ := first.exists_accepts_of_parse judges read
        exact ⟨other, raw, .later read accepts decodes, failed⟩
      · rintro ⟨other, raw, decodes, failed⟩
        cases decodes with
        | here decodes =>
          have unread := (first.parse_eq_error_iff foreign).mpr ⟨raw, decodes, failed⟩
          simp [unread] at read
        | later _ _ decodes => exact ⟨other, raw, decodes, failed⟩

theorem assignLevels_error_iff {levels : List Level}
    (regular : ∀ level ∈ levels, ∀ spec ∈ level.options, spec.Regular)
    (judged : ∀ level ∈ levels, ∀ spec ∈ level.options, spec.Judged) {rows : List (List Value)}
    (filled : Filled levels rows) {tokens : List String} :
    (assignLevels readObject levels rows tokens).leftover = .error fault ↔
      ∃ spec raw, LevelsDecode readObject levels rows tokens spec raw ∧
        (decode readObject raw spec.kind (some spec.flag) spec.base).result = .error fault := by
  induction filled generalizing tokens with
  | nil =>
    refine iff_of_false nofun ?_
    rintro ⟨_, _, decodes, _⟩
    cases decodes
  | @cons level row levels rows here above ih =>
    obtain ⟨own, regular⟩ := List.forall_mem_cons.mp regular
    obtain ⟨judges, judged⟩ := List.forall_mem_cons.mp judged
    have first := assignRow_fault_iff foreign own judges here (s := ofTexts tokens)
    cases stopped : (assignRow readObject level.options row (ofTexts tokens)).fault with
    | some other =>
      rw [stopped] at first
      simp only [assignLevels, stopped]
      rw [Except.error.injEq, ← Option.some.injEq, first]
      constructor
      · rintro ⟨spec, raw, decodes, failed⟩
        exact ⟨spec, raw, .own decodes, failed⟩
      · rintro ⟨spec, raw, decodes, failed⟩
        cases decodes with
        | own decodes => exact ⟨spec, raw, decodes, failed⟩
        | above done => simp [stopped] at done
    | none =>
      rw [stopped] at first
      simp only [assignLevels, stopped]
      rw [ih regular judged]
      constructor
      · rintro ⟨spec, raw, decodes, failed⟩
        exact ⟨spec, raw, .above stopped decodes, failed⟩
      · rintro ⟨spec, raw, decodes, failed⟩
        cases decodes with
        | own decodes => cases first.mpr ⟨spec, raw, decodes, failed⟩
        | above _ decodes => exact ⟨spec, raw, decodes, failed⟩

theorem resolveClass_eq_error_iff {name : String} {flag : Option String} :
    resolveClass name flag = .error fault ↔
      Catalogue.resolve name = .error .emptyModule ∧ fault = .ofValue .badValue ∨
      Catalogue.resolve name = .error .relativeModule ∧ fault = .ofValue .wrongType := by
  unfold resolveClass
  cases Catalogue.resolve name with
  | ok referent => simp
  | error cause => cases cause <;> simp [eq_comm, (malformed_ne foreign).symm]

omit foreign in
theorem Begins.readObject_eq {line name : String} {options : List String}
    (begins : Begins line name options) (base : Option ClassId) (flag : Option String) :
    readObject base flag line =
      match resolveClass name flag with
      | .error fault => .fail fault
      | .ok referent =>
          match base.filter fun base => !referent.derivesFrom base with
          | some base => .fail (.malformed flag (some line) (.notSubclass name base))
          | none =>
              match referent.instantiable with
              | .error reason => .fail (.malformed flag (some line) (.notInstantiable name reason))
              | .ok id => configure readObject (.malformed flag (some line)) name id options := by
  rw [OptionProtocol.readObject_eq]
  simp only [readObjectBy, begins.filled, begins.split]
  rfl

/-- Before a class name is resolved, reading an object only fails with malformed values. -/
theorem exists_begins {base : Option ClassId} {flag : Option String} {line : String}
    (failed : (readObject base flag line).result = .error fault) :
    ∃ name options, Begins line name options := by
  rw [OptionProtocol.readObject_eq] at failed
  cases filled : Text.isAllBlank line with
  | true => simp [readObjectBy, filled, Attempt.fail, malformed_ne foreign] at failed
  | false =>
    cases split : CommandLine.tokens line with
    | error other =>
      unfold CommandLine.tokens at split
      split at split
      · cases split
      · cases split
        simp [readObjectBy, CommandLine.tokens, *, Attempt.fail, malformed_ne foreign] at failed
    | ok tokens =>
      cases tokens with
      | nil => simp [CommandLine.isAllBlank_of_tokens_nil split] at filled
      | cons name options => exact ⟨name, options, filled, split⟩

theorem configure_eq_error_iff {flag value : Option String} {name : String} {id : ClassId}
    {options : List String} :
    (configure readObject (.malformed flag value) name id options).result = .error fault ↔
      id.isHandler = true ∧
        (assignLevels readObject id.levels id.defaultRows options).leftover = .error fault := by
  unfold configure
  cases id.isHandler with
  | false => cases options <;> simp [Attempt.done, Attempt.fail, malformed_ne foreign]
  | true =>
    simp only [if_true, true_and]
    split
    · rename_i other stopped
      simp [stopped]
    · rename_i done
      simp [done]
    · rename_i leftover _ done
      simp [done, malformed_ne foreign]

theorem Begins.readObject_eq_error_iff {line name : String} {options : List String}
    (begins : Begins line name options) {base : Option ClassId} {flag : Option String} :
    (readObject base flag line).result = .error fault ↔
      resolveClass name flag = .error fault ∨
      ∃ id, Makes base name id ∧ id.isHandler = true ∧
        (assignLevels readObject id.levels id.defaultRows options).leftover = .error fault := by
  rw [begins.readObject_eq]
  constructor
  · intro failed
    cases found : resolveClass name flag with
    | error other => exact .inl (by simpa [found, Attempt.fail] using failed)
    | ok referent =>
      simp only [found] at failed
      split at failed
      · exact absurd (Except.error.inj failed) (malformed_ne foreign)
      · rename_i derives
        split at failed
        · exact absurd (Except.error.inj failed) (malformed_ne foreign)
        · rename_i id instantiable
          obtain ⟨rfl, possible⟩ := Catalogue.Referent.instantiable_eq_ok instantiable
          refine .inr ⟨id, ⟨resolve_of_resolveClass found, ?_, possible⟩,
            (configure_eq_error_iff foreign).mp failed⟩
          intro required member
          rw [Option.filter_eq_none_iff] at derives
          simpa [Catalogue.Referent.derivesFrom] using derives required member
  · rintro (unresolved | ⟨id, makes, stopped⟩)
    · simp [unresolved, Attempt.fail]
    · have found : resolveClass name flag = .ok (.classRef id) := by
        simp [resolveClass, makes.resolved]
      have derives : (base.filter fun base =>
          !Catalogue.Referent.derivesFrom (.classRef id) base) = none := by
        rw [Option.filter_eq_none_iff]
        intro required member
        simp [Catalogue.Referent.derivesFrom, makes.derives required member]
      have made : Catalogue.Referent.instantiable (.classRef id) = .ok id := by
        simp [Catalogue.Referent.instantiable, makes.possible]
      simp only [found, derives, made]
      exact (configure_eq_error_iff foreign).mpr stopped

end

section

variable {reader : ObjectReader}

theorem ItemsDecode.mem {decodeItem : String → Attempt Value} {flag : String}
    {tokens : List Token} {raw : String} (decoded : ItemsDecode decodeItem flag tokens raw) :
    raw ∈ remaining ⟨tokens⟩ := by
  induction decoded with
  | first taken => exact (sublist_of_takePair taken).2
  | later taken _ _ ih => exact (sublist_of_takePair taken).1.subset ih

theorem RowDecodes.valued {specs : List OptionSpec} {s : TokenSequence} {spec : OptionSpec}
    {raw : String} (decodes : RowDecodes reader specs s spec raw) : spec.kind ≠ .flag := by
  induction decodes with
  | here decodes =>
    cases decodes with
    | value _ valued => exact valued
    | item _ valued => exact valued
  | later _ _ _ ih => exact ih

theorem LevelsDecode.valued {levels : List Level} {rows : List (List Value)}
    {tokens : List String} {spec : OptionSpec} {raw : String}
    (decodes : LevelsDecode reader levels rows tokens spec raw) : spec.kind ≠ .flag := by
  induction decodes with
  | own decodes => exact decodes.valued
  | above _ _ ih => exact ih

theorem RowDecodes.mem {specs : List OptionSpec} {s : TokenSequence} {spec : OptionSpec}
    {raw : String} (decodes : RowDecodes reader specs s spec raw) : raw ∈ s.remaining := by
  induction decodes with
  | here decodes =>
    cases decodes with
    | value _ _ taken => exact (sublist_of_takePair taken).2
    | item _ _ decoded => exact decoded.mem
  | @later spec _ _ s _ _ _ _ _ _ ih => exact (spec.remaining_parse reader s).subset ih

/-- Whatever text is decoded is one of the tokens. -/
theorem LevelsDecode.mem {levels : List Level} {rows : List (List Value)} {tokens : List String}
    {spec : OptionSpec} {raw : String} (decodes : LevelsDecode reader levels rows tokens spec raw) :
    raw ∈ tokens := by
  have all (tokens : List String) : (ofTexts tokens).remaining = tokens := remaining_unmarked tokens
  induction decodes with
  | own decodes => simpa only [all] using decodes.mem
  | @above level _ row _ tokens _ _ _ _ ih =>
    have fewer := (remaining_assignRow reader level.options row (ofTexts tokens)).subset
    rw [all] at fewer
    exact fewer ih

end

theorem ClassId.assignLevels_error_iff (id : ClassId) {fault : OptionFault}
    (foreign : ¬fault.IsMalformed) {options : List String} :
    (assignLevels readObject id.levels id.defaultRows options).leftover = .error fault ↔
      ∃ spec raw, LevelsDecode readObject id.levels id.defaultRows options spec raw ∧
        (decode readObject raw spec.kind (some spec.flag) spec.base).result = .error fault :=
  OptionProtocol.assignLevels_error_iff foreign id.regular id.judged id.length_defaultRows

theorem resolveClass_flag {fault : OptionFault} (foreign : ¬fault.IsMalformed) {name : String}
    (first second : Option String) :
    resolveClass name first = .error fault ↔ resolveClass name second = .error fault := by
  rw [resolveClass_eq_error_iff foreign, resolveClass_eq_error_iff foreign]

/-- Reading an object comes to a fault that is no malformed value just where a class name that is
to be resolved on the way is at fault so. -/
theorem readObject_eq_error_iff {fault : OptionFault} (foreign : ¬fault.IsMalformed)
    {base : Option ClassId} {flag : Option String} {line : String} :
    (readObject base flag line).result = .error fault ↔
      ∃ name, Resolves base line name ∧ resolveClass name none = .error fault := by
  constructor
  · intro failed
    obtain ⟨name, options, begins⟩ := exists_begins foreign failed
    obtain unresolved | ⟨id, makes, isHandler, stopped⟩ :=
      (begins.readObject_eq_error_iff foreign).mp failed
    · exact ⟨name, .own begins, (resolveClass_flag foreign _ _).mp unresolved⟩
    · obtain ⟨spec, raw, decodes, unread⟩ := (id.assignLevels_error_iff foreign).mp stopped
      have valued : spec.kind ≠ .flag := decodes.valued
      obtain ⟨object, unread⟩ := (decode_eq_error_iff foreign valued).mp unread
      -- The text of an object inside is shorter.
      have shorter : raw.length < line.length :=
        CommandLine.length_lt_of_split (CommandLine.split_of_tokens begins.split) decodes.mem
      obtain ⟨inner, resolves, unresolved⟩ := (readObject_eq_error_iff foreign).mp unread
      exact ⟨inner, .inner begins makes isHandler decodes object resolves, unresolved⟩
  · rintro ⟨name, resolves, unresolved⟩
    induction resolves generalizing flag with
    | own begins =>
      exact (begins.readObject_eq_error_iff foreign).mpr
        (.inl ((resolveClass_flag foreign _ _).mp unresolved))
    | @inner base line outer name raw options id spec begins makes isHandler decodes object
        resolves ih =>
      have stopped := (id.assignLevels_error_iff foreign).mpr
        ⟨spec, raw, decodes, (decode_eq_error_iff foreign (by simp [object])).mpr
          ⟨object, ih unresolved⟩⟩
      exact (begins.readObject_eq_error_iff foreign).mpr (.inr ⟨id, makes, isHandler, stopped⟩)
termination_by line.length

/-- Resolving a class name comes to another fault just for the relative names. -/
theorem exists_resolveClass_error_iff {name : String} {flag : Option String} :
    (∃ fault, ¬fault.IsMalformed ∧ resolveClass name flag = .error fault) ↔
      Catalogue.IsRelative name := by
  have foreign {fault : ValueFault} : ¬(OptionFault.ofValue fault).IsMalformed := by
    rintro ⟨_, _, _, same⟩
    cases same
  constructor
  · rintro ⟨fault, foreign, failed⟩
    by_contra plain
    obtain ⟨found, _⟩ | ⟨found, _⟩ := (resolveClass_eq_error_iff foreign).mp failed <;>
      cases Catalogue.resolve_error plain found
  · intro relative
    obtain found | found := Catalogue.resolve_of_isRelative relative
    · exact ⟨_, foreign, (resolveClass_eq_error_iff foreign).mpr (.inl ⟨found, rfl⟩)⟩
    · exact ⟨_, foreign, (resolveClass_eq_error_iff foreign).mpr (.inr ⟨found, rfl⟩)⟩

end OptionProtocol
