import OptionProtocol.Proofs.Handler.Canonical
import OptionProtocol.Proofs.Handler.Constrained
import OptionProtocol.Proofs.Handler.Sourcing

/-! Options hold values of their kinds. A new handler does, and taking options replaces a value only
by one that was read for the option, whether or not the tokens are accepted in the end. What was
read for an object is a handler that took options itself, so this goes down to the innermost
handlers, and all of them can be written. -/

set_option autoImplicit false

namespace OptionProtocol

open TokenSequence

/-- A value of the kind that the option declares. The default is the only tuple. -/
structure OptionSpec.Declares (spec : OptionSpec) (value : Value) : Prop where
  fits : spec.Fits value
  tuple : ∀ items, value = .tuple items → value = spec.default

/-- Every option of every level holds a value of the kind that it declares. -/
structure Handler.Typed (handler : Handler) : Prop where
  concrete : handler.id.IsConcrete
  declared : List.Forall₂ (fun level row => List.Forall₂ OptionSpec.Declares level.options row)
    handler.id.levels handler.rows

theorem Handler.Typed.fitted {handler : Handler} (typed : handler.Typed) : handler.Fitted :=
  typed.declared.imp fun _ _ row => row.imp fun _ _ value => value.fits

/-- The objects read from the text where a handler is asked for are typed throughout. -/
def TypedReads (raw : String) : Prop :=
  ∀ base : ClassId, base.isHandler = true → ∀ flag value,
    (readObject (some base) flag raw).result = .ok value →
      value.Inside fun handler => handler.Throughout Handler.Typed

namespace OptionSpec

/-- A value of the kind that the option declares, with typed handlers inside. -/
structure Typed (spec : OptionSpec) (value : Value) : Prop where
  declares : spec.Declares value
  inside : value.Inside fun handler => handler.Throughout Handler.Typed

variable {spec : OptionSpec} {value : Value}

theorem Regular.inside_of_decode (regular : spec.Regular) {raw : String} (reads : TypedReads raw)
    (read : (decode readObject raw spec.kind (some spec.flag) spec.base).result = .ok value) :
    value.Inside fun handler => handler.Throughout Handler.Typed := by
  have ofKind := (regular.readFrom (soundReads raw) read).kind
  by_cases object : spec.kind = .object
  · obtain ⟨base, based, isHandler⟩ := regular.base object
    rw [object, based] at read
    exact reads base isHandler (some spec.flag) value read
  · intro handler part
    rw [ofKind.parts_eq, List.mem_singleton] at part
    exact absurd (part ▸ ofKind).eq_object object

-- The default of an array is a list or a tuple, and its copy is a list.
theorem Regular.copyDefault_eq (regular : spec.Regular) (array : spec.isArray = true)
    (copied : copyDefault spec.default = .ok value) : value = .list spec.default.parts := by
  have valued : spec.kind ≠ .flag := by
    intro flag
    rw [(regular.flag flag).1] at array
    cases array
  have fits := (regular.default valued).fits
  generalize spec.default = default at fits copied ⊢
  cases fits with
  | single single => simp [single] at array
  | flag single => simp [single] at array
  | @array _ items _ _ sequence =>
    rw [Value.parts_of_sequence sequence]
    obtain rfl | rfl := sequence <;> exact (Except.ok.inj copied).symm

section

variable {texts : List String}

theorem Sourced.tuple (regular : spec.Regular) (sourced : spec.Sourced readObject texts value) :
    ∀ items, value = .tuple items → value = spec.default := by
  intro items same
  cases sourced with
  | default => rfl
  | copied array copied => cases same.symm.trans (regular.copyDefault_eq array copied)
  | flag => cases same
  | @value _ raw _ _ read =>
    have ofKind := (regular.readFrom (soundReads raw) read).kind
    generalize spec.kind = kind at ofKind
    rw [same] at ofKind
    cases ofKind
  | items => cases same

theorem Sourced.inside (regular : spec.Regular) (sourced : spec.Sourced readObject texts value)
    (default : spec.default.Inside fun handler => handler.Throughout Handler.Typed)
    (reads : ∀ raw ∈ texts, TypedReads raw) :
    value.Inside fun handler => handler.Throughout Handler.Typed := by
  have behind {announced raw : String} (follows : [announced, raw] <:+: texts) : raw ∈ texts :=
    follows.subset (by simp)
  cases sourced with
  | default => exact default
  | copied array copied =>
    obtain rfl := regular.copyDefault_eq array copied
    exact default
  | flag => simp [Value.Inside, Value.parts, Handler.toValue]
  | value single follows read => exact regular.inside_of_decode (reads _ (behind follows)) read
  | items array each =>
    intro handler part
    obtain ⟨raw, follows, read⟩ := each _ part
    exact (regular.inside_of_decode (reads raw (behind follows)) read).here

end

/-- What one option makes of the tokens is typed, and so is a value that stays. -/
theorem Regular.typed_of_keeps (regular : spec.Regular) (default : spec.Typed spec.default)
    {s : TokenSequence} (reads : ∀ raw ∈ s.texts, TypedReads raw) {old new kept : Value}
    (typed : spec.Typed old) (read : (spec.parse readObject s).1.result = .ok new)
    (keeps : spec.Keeps old new kept) : spec.Typed kept := by
  cases keeps with
  | old => exact typed
  | new accepted =>
    have settled := (regular.parse (fun raw _ => soundReads raw) read (.new accepted)).1
    have sourced := (spec.parse_sourced readObject s).2 new read
    exact ⟨⟨settled.fits, sourced.tuple regular⟩, sourced.inside regular default.inside reads⟩

end OptionSpec

/-- All values of a row are typed. -/
abbrev RowTyped (specs : List OptionSpec) (row : List Value) : Prop :=
  List.Forall₂ OptionSpec.Typed specs row

abbrev LevelsTyped (levels : List Level) (rows : List (List Value)) : Prop :=
  List.Forall₂ (fun level row => RowTyped level.options row) levels rows

theorem RowTyped.assignRow {specs : List OptionSpec} {row : List Value}
    (typed : RowTyped specs row) (regular : ∀ spec ∈ specs, spec.Regular)
    (defaults : ∀ spec ∈ specs, spec.Typed spec.default) {s : TokenSequence}
    (reads : ∀ raw ∈ s.texts, TypedReads raw) :
    RowTyped specs (assignRow readObject specs row s).row := by
  induction typed generalizing s with
  | nil => exact .nil
  | @cons spec old specs row here rest ih =>
    obtain ⟨first, regular⟩ := List.forall_mem_cons.mp regular
    obtain ⟨default, defaults⟩ := List.forall_mem_cons.mp defaults
    obtain ⟨_, _, run⟩ | ⟨new, kept, _, read, keeps, run⟩ :=
      assignRow_cons_cases readObject spec specs old row s
    -- Where the row stops, all values stay.
    · rw [run]
      exact .cons here rest
    · have texts := (spec.parse_sourced readObject s).1
      rw [run]
      exact .cons (first.typed_of_keeps default reads here read keeps)
        (ih regular defaults fun raw member => reads raw (texts ▸ member))

theorem LevelsTyped.assignLevels {levels : List Level} {rows : List (List Value)}
    (typed : LevelsTyped levels rows)
    (regular : ∀ level ∈ levels, ∀ spec ∈ level.options, spec.Regular)
    (defaults : ∀ level ∈ levels, ∀ spec ∈ level.options, spec.Typed spec.default)
    {tokens : List String} (reads : ∀ raw ∈ tokens, TypedReads raw) :
    LevelsTyped levels (assignLevels readObject levels rows tokens).rows := by
  induction typed generalizing tokens with
  | nil => exact .nil
  | @cons level row levels rows here above ih =>
    obtain ⟨own, regular⟩ := List.forall_mem_cons.mp regular
    obtain ⟨default, defaults⟩ := List.forall_mem_cons.mp defaults
    have first : RowTyped level.options
        (assignRow readObject level.options row (ofTexts tokens)).row :=
      here.assignRow own default (by rwa [texts_ofTexts])
    have fewer := (remaining_assignRow readObject level.options row (ofTexts tokens)).subset
    have all : (ofTexts tokens).remaining = tokens := remaining_unmarked tokens
    rw [all] at fewer
    unfold OptionProtocol.assignLevels
    cases stopped : (assignRow readObject level.options row (ofTexts tokens)).fault with
    | some fault => simpa only [stopped] using .cons first above
    | none =>
      simp only [stopped]
      exact .cons first (ih regular defaults fun raw member => reads raw (fewer member))

theorem LevelsTyped.inside {levels : List Level} {rows : List (List Value)}
    (typed : LevelsTyped levels rows) :
    ∀ row ∈ rows, ∀ value ∈ row,
      value.Inside fun handler => handler.Throughout Handler.Typed := by
  have row_inside {specs : List OptionSpec} {row : List Value} (typed : RowTyped specs row) :
      ∀ value ∈ row, value.Inside fun handler => handler.Throughout Handler.Typed := by
    induction typed with
    | nil => simp
    | cons first _ ih => exact List.forall_mem_cons.mpr ⟨first.inside, ih⟩
  induction typed with
  | nil => simp
  | cons first _ ih => exact List.forall_mem_cons.mpr ⟨row_inside first, ih⟩

theorem LevelsTyped.throughout {id : ClassId} {rows : List (List Value)}
    (typed : LevelsTyped id.levels rows) (concrete : id.IsConcrete) :
    (Handler.mk id rows).Throughout Handler.Typed := by
  refine .node ⟨concrete, ?_⟩ (Handler.forall_holds_iff.mpr typed.inside)
  exact typed.imp fun _ _ row => row.imp fun _ _ value => value.declares

theorem levelsTyped_defaults {levels : List Level}
    (typed : ∀ level ∈ levels, ∀ spec ∈ level.options, spec.Typed spec.default) :
    LevelsTyped levels (levels.map Level.defaults) := by
  unfold LevelsTyped RowTyped Level.defaults
  rw [List.forall₂_map_right_iff, List.forall₂_same]
  intro level member
  rw [List.forall₂_map_right_iff, List.forall₂_same]
  exact typed level member

theorem OptionSpec.Fits.not_object {spec : OptionSpec} {value : Value} (fits : spec.Fits value)
    (plain : spec.kind ≠ .object) {property : Handler → Prop} : value.Inside property := by
  intro handler part
  cases fits with
  | single single kind =>
    rw [kind.parts_eq, List.mem_singleton] at part
    exact absurd (part ▸ kind).eq_object plain
  | flag => simp [Value.parts, Handler.toValue] at part
  | array array valued sequence kinds =>
    rw [Value.parts_of_sequence sequence] at part
    exact absurd (kinds _ part).eq_object plain

namespace ClassId

theorem parts_fresh (id : ClassId) : id.fresh.parts = [id.fresh] := rfl

/-- The classes of the objects among the defaults. -/
def leaves : List ClassId := [.gaussianKernel, .polyKernel, .baseClassifier]

theorem not_object_of_leaf : ∀ id ∈ leaves, ∀ level ∈ id.levels, ∀ spec ∈ level.options,
    spec.kind ≠ .object := by
  decide

theorem flag_default (id : ClassId) : ∀ level ∈ id.levels, ∀ spec ∈ level.options,
    spec.kind = .flag → ∃ isSet, spec.default = .bool isSet := by
  cases id <;> simp [levels, Catalogue.gaussianKernel, Catalogue.polyKernel,
    Catalogue.baseClassifier, Catalogue.abstractLearner, Catalogue.ensemble, Catalogue.childLearner]

theorem object_default (id : ClassId) : ∀ level ∈ id.levels, ∀ spec ∈ level.options,
    spec.kind = .object → ∀ part ∈ spec.default.parts, part ∈ leaves.map fresh := by
  have gaussian : Catalogue.fresh .gaussianKernel [Catalogue.gaussianKernel] =
    fresh .gaussianKernel := rfl
  have poly : Catalogue.fresh .polyKernel [Catalogue.polyKernel] = fresh .polyKernel := rfl
  have classifier : Catalogue.fresh .baseClassifier [Catalogue.baseClassifier] =
    fresh .baseClassifier := rfl
  obtain ⟨noneOfGaussian, noneOfPoly, noneOfClassifier⟩ :
      (∀ spec ∈ Catalogue.gaussianKernel.options, spec.kind ≠ .object) ∧
        (∀ spec ∈ Catalogue.polyKernel.options, spec.kind ≠ .object) ∧
        ∀ spec ∈ Catalogue.baseClassifier.options, spec.kind ≠ .object := by
    simpa [leaves, levels] using not_object_of_leaf
  cases id <;> simp +contextual [levels, Catalogue.abstractLearner, Catalogue.ensemble,
    Catalogue.childLearner, leaves, gaussian, poly, classifier, parts_fresh, noneOfGaussian,
    noneOfPoly, noneOfClassifier, Value.parts.eq_def (.list _)]

theorem declares_default (id : ClassId) : ∀ level ∈ id.levels, ∀ spec ∈ level.options,
    spec.Declares spec.default := by
  intro level member spec inside
  have regular := id.regular level member spec inside
  refine ⟨?_, fun _ _ => rfl⟩
  by_cases flag : spec.kind = .flag
  · obtain ⟨isSet, default⟩ := id.flag_default level member spec inside flag
    rw [default]
    exact .flag (regular.flag flag).1 flag isSet
  · exact (regular.default flag).fits

theorem leaf_typed : ∀ id ∈ leaves, (Handler.fresh id).Throughout Handler.Typed := by
  intro id leaf
  have concrete : ∀ id ∈ leaves, id.IsConcrete := by decide
  refine (levelsTyped_defaults ?_).throughout (concrete id leaf)
  intro level member spec inside
  have declares := id.declares_default level member spec inside
  exact ⟨declares, declares.fits.not_object (not_object_of_leaf id leaf level member spec inside)⟩

theorem typed_default (id : ClassId) : ∀ level ∈ id.levels, ∀ spec ∈ level.options,
    spec.Typed spec.default := by
  intro level member spec inside
  have declares := id.declares_default level member spec inside
  refine ⟨declares, ?_⟩
  by_cases object : spec.kind = .object
  · intro handler part
    obtain ⟨leaf, among, same⟩ :=
      List.mem_map.mp (id.object_default level member spec inside object _ part)
    obtain rfl : Handler.fresh leaf = handler := Handler.toValue_injective same
    exact leaf_typed leaf among
  · exact declares.fits.not_object object

end ClassId

-- Objects inside a command line come from shorter command lines.
theorem typedReads (raw : String) : TypedReads raw := by
  intro base handlers flag value read
  obtain ⟨name, id, tokens, split, _, possible, derives, made⟩ := readObject_ok read
  have isHandler := ClassId.derivesFrom_trans (derives base rfl) handlers
  obtain ⟨_, rfl⟩ := configure_ok isHandler made
  have shorter (text : String) (member : text ∈ tokens) : TypedReads text :=
    have := CommandLine.length_lt_of_split split member
    typedReads text
  have typed := (levelsTyped_defaults id.typed_default).assignLevels id.regular id.typed_default
    shorter
  intro handler part
  change handler.toValue ∈ [Handler.toValue ⟨id, _⟩] at part
  obtain rfl := Handler.toValue_injective (List.mem_singleton.mp part)
  exact typed.throughout ⟨isHandler, possible⟩
termination_by raw.length

namespace Handler

variable {id : ClassId}

theorem levelsTyped_actAll (id : ClassId) (runs : List (List String)) {rows : List (List Value)}
    (typed : LevelsTyped id.levels rows) :
    ∃ afters, actAll ⟨id, rows⟩ (runs.map .setOptions) = ⟨id, afters⟩ ∧
      LevelsTyped id.levels afters := by
  induction runs generalizing rows with
  | nil => exact ⟨rows, rfl, typed⟩
  | cons tokens runs ih =>
    exact ih (typed.assignLevels id.regular id.typed_default fun raw _ => typedReads raw)

/-- However often a new handler was given options, and whatever they were, all options hold values
of their kinds, down to the innermost handlers, and the handler has tokens and a command line. -/
theorem typed_actAll_setOptions (concrete : id.IsConcrete) (runs : List (List String)) :
    ((fresh id).actAll (runs.map .setOptions)).Throughout Typed ∧
      (∃ options, ((fresh id).actAll (runs.map .setOptions)).getOptions = .ok options) ∧
      ∃ line, ((fresh id).actAll (runs.map .setOptions)).commandLine = .ok line := by
  obtain ⟨afters, reached, after⟩ :=
    levelsTyped_actAll id runs (levelsTyped_defaults id.typed_default)
  rw [fresh, ClassId.defaultRows, reached]
  have typed := after.throughout concrete
  obtain ⟨line, written⟩ := (typed.mono fun _ here => here.fitted).exists_commandLine
  obtain ⟨options, own, _⟩ := commandLine_eq_ok.mp written
  exact ⟨typed, ⟨options, own⟩, line, written⟩

-- The second call stops at its array, after the label was set.
theorem typed_actAll_setOptions_unread :
    ClassId.abstractLearner.IsConcrete ∧
      ((fresh .abstractLearner).setOptions ["-label", "-v", "-weights", "x"]).1.result =
        .error (.malformed (some "weights") (some "x") .unreadable) ∧
      ((fresh .abstractLearner).actAll ([["-normalize"], ["-label", "-v", "-weights", "x"]].map
        .setOptions)).Throughout Typed ∧
      (∃ options, ((fresh .abstractLearner).actAll ([["-normalize"],
        ["-label", "-v", "-weights", "x"]].map .setOptions)).getOptions = .ok options) ∧
      ∃ line, ((fresh .abstractLearner).actAll ([["-normalize"],
        ["-label", "-v", "-weights", "x"]].map .setOptions)).commandLine = .ok line := by
  refine ⟨by decide, ?_, typed_actAll_setOptions (by decide) _⟩
  with_unfolding_all rfl

end Handler

end OptionProtocol
