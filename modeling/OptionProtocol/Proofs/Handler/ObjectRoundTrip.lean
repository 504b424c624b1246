import OptionProtocol.Proofs.Handler.Nesting
import OptionProtocol.Proofs.Handler.RowRoundTrip
import OptionProtocol.Proofs.Handler.ValueRoundTrip

/-! A tree of option handlers is read back from its command line. A tuple comes back as a
list, so the tree that is read is not always the one written, but it has the same options. -/

set_option autoImplicit false

namespace OptionProtocol

open TokenSequence

/-- The same value, or objects of the same class. -/
inductive Value.Twin : Value → Value → Prop where
  | same (value : Value) : Twin value value
  | object (id : ClassId) (rows agains : List (List Value)) :
      Twin (.object id rows) (.object id agains)

namespace Value

variable {value again : Value}

theorem Twin.compareInt (twin : Twin value again) (bound : Int) :
    again.compareInt bound = value.compareInt bound := by
  cases twin <;> rfl

theorem Twin.items (twin : Twin value again) : again.items = value.items := by
  cases twin with
  | same => rfl
  | object id => cases id <;> rfl

end Value

namespace Constraint

theorem holds_twin {value again : Value} (twin : value.Twin again) (constraint : Constraint) :
    constraint.holds again = constraint.holds value := by
  cases twin with
  | same => rfl
  | object id rows agains =>
    have items := (Value.Twin.object id rows agains).items
    cases constraint <;> simp [holds, items, isAbove, Value.compareInt]

theorem allAbove_twins {items agains : List Value} (twins : List.Forall₂ Value.Twin items agains)
    (bound : Int) : allAbove bound agains = allAbove bound items := by
  induction twins with
  | nil => rfl
  | cons twin _ ih => simp only [allAbove, isAbove, twin.compareInt, ih]

theorem holds_twins {items agains : List Value} (twins : List.Forall₂ Value.Twin items agains)
    {value : Value} (sequence : value = .list items ∨ value = .tuple items)
    (constraint : Constraint) : constraint.holds (.list agains) = constraint.holds value := by
  have count := twins.length_eq
  have above := allAbove_twins twins
  obtain rfl | rfl := sequence <;> cases constraint <;>
    simp [holds, isAbove, Value.compareInt, Value.items, Except.map, count, above]

end Constraint

/-- The object of a handler is read from its command line with the same command line, where
its class is asked for. -/
def Handler.Restorable (handler : Handler) : Prop :=
  ∃ line again, handler.commandLine = .ok line ∧
    Handler.commandLine ⟨handler.id, again⟩ = .ok line ∧
    ∀ base flag, (∀ required ∈ base, handler.id.derivesFrom required = true) →
      (readObject base flag line).result = .ok (.object handler.id again)

namespace OptionSpec

variable {spec : OptionSpec}

theorem accepts_twin {value again : Value} (twin : value.Twin again) :
    spec.accepts again = spec.accepts value := by
  unfold accepts
  split
  · rfl
  · exact Constraint.holds_twin twin _

theorem accepts_twins {items agains : List Value} (twins : List.Forall₂ Value.Twin items agains)
    {value : Value} (sequence : value = .list items ∨ value = .tuple items) :
    spec.accepts (.list agains) = spec.accepts value := by
  unfold accepts
  split
  · rfl
  · exact Constraint.holds_twins twins sequence _

/-- A single value is read back as its twin, which has the same text. -/
def Rereads (spec : OptionSpec) (value again : Value) : Prop :=
  spec.ReadsBack readObject value again ∧ value.Twin again ∧
    again.encode spec.kind = value.encode spec.kind

theorem rereads_of_ofKind {value : Value} (kind : value.OfKind spec.base spec.kind)
    (floats : value.FloatsReadBack) (inner : value.Inside Handler.Restorable) :
    ∃ again, spec.Rereads value again := by
  obtain ⟨scalar, writes⟩ | ⟨object, handler, rfl, derives⟩ := kind.scalar_or_object
  · -- Everything but an object is read back as it is.
    exact ⟨value, scalar.survives writes floats, .same value, rfl⟩
  · obtain ⟨line, again, written, same, read⟩ := Value.Inside.here handler inner
    have encoded : handler.toValue.encode spec.kind = .ok line := by rw [object]; exact written
    have rewritten : (Value.object handler.id again).encode spec.kind = .ok line := by
      rw [object]
      exact same
    have decoded := read spec.base (some spec.flag) derives
    refine ⟨.object handler.id again, ⟨line, encoded, ?_⟩, .object _ handler.rows again, ?_⟩
    · rw [object]
      exact decoded
    · rw [encoded, rewritten]

theorem rereads_items {items : List Value}
    (kinds : ∀ item ∈ items, item.OfKind spec.base spec.kind)
    (floats : ∀ item ∈ items, item.FloatsReadBack)
    (inner : ∀ item ∈ items, item.Inside Handler.Restorable) :
    ∃ agains, List.Forall₂ spec.Rereads items agains := by
  induction items with
  | nil => exact ⟨[], .nil⟩
  | cons item items ih =>
    obtain ⟨kind, kinds⟩ := List.forall_mem_cons.mp kinds
    obtain ⟨float, floats⟩ := List.forall_mem_cons.mp floats
    obtain ⟨here, inner⟩ := List.forall_mem_cons.mp inner
    obtain ⟨again, first⟩ := rereads_of_ofKind kind float here
    obtain ⟨agains, rest⟩ := ih kinds floats inner
    exact ⟨again :: agains, .cons first rest⟩

theorem itemTokens_rereads {items agains : List Value}
    (rereads : List.Forall₂ spec.Rereads items agains) (flag : String) :
    Value.itemTokens flag spec.kind agains = Value.itemTokens flag spec.kind items := by
  induction rereads with
  | nil => rfl
  | cons first _ ih => rw [Value.itemTokens_cons, Value.itemTokens_cons, first.2.2, ih]

/-- What fits an option is restored from its tokens, and what is restored is as acceptable and
is written with the same tokens. -/
theorem Fits.restores {value : Value} (fits : spec.Fits value) (floats : value.FloatsReadBack)
    (inner : value.Inside Handler.Restorable) :
    ∃ again, spec.Restores readObject value again ∧ spec.accepts again = spec.accepts value ∧
      spec.tokens again = spec.tokens value := by
  cases fits with
  | single single kind =>
    obtain ⟨again, reads, twin, same⟩ := rereads_of_ofKind kind floats inner
    refine ⟨again, .single single kind.ne_flag reads, accepts_twin twin, ?_⟩
    rw [tokens_single single kind.ne_flag, tokens_single single kind.ne_flag, same]
  | flag single flag isSet => exact ⟨.bool isSet, .flag single flag isSet, rfl, rfl⟩
  | array array valued sequence kinds traced =>
    have parts := Value.parts_of_sequence sequence
    obtain ⟨agains, rereads⟩ := rereads_items kinds
      (fun item member => (kinds item member).floatsReadBack (parts ▸ member) floats)
      (fun item member => (kinds item member).inside (parts ▸ member) inner)
    have reads := rereads.imp fun _ _ rereads => rereads.1
    have twins := rereads.imp fun _ _ rereads => rereads.2.1
    -- A tuple comes back as a list, which has the same items and the same tokens.
    refine ⟨.list agains, .array array valued sequence reads traced,
      accepts_twins twins sequence, ?_⟩
    rw [tokens_array array (.inl rfl), tokens_array array sequence,
      itemTokens_rereads rereads spec.flag]

end OptionSpec

/-- Each row is restored from its tokens, level by level. -/
inductive LevelsRestore (reader : ObjectReader) :
    List Level → List (List Value) → List (List Value) → Prop where
  | nil : LevelsRestore reader [] [] []
  | cons {level : Level} {levels : List Level} {row again : List Value}
      {rows agains : List (List Value)} (first : RowRestores reader level.options row again)
      (above : LevelsRestore reader levels rows agains) :
      LevelsRestore reader (level :: levels) (row :: rows) (again :: agains)

namespace LevelsRestore

variable {reader : ObjectReader} {levels : List Level} {rows agains : List (List Value)}

theorem tokens (restore : LevelsRestore reader levels rows agains) :
    ∃ tokens, Value.levelTokens levels rows = .ok tokens ∧
      Value.levelTokens levels agains = .ok tokens := by
  induction restore with
  | nil => exact ⟨[], Value.levelTokens_nil _, Value.levelTokens_nil _⟩
  | cons first _ ih =>
    obtain ⟨own, written, same, _⟩ := first.tokens
    obtain ⟨above, writtenAbove, sameAbove⟩ := ih
    exact ⟨own ++ above, Value.levelTokens_cons_ok written writtenAbove,
      Value.levelTokens_cons_ok same sameAbove⟩

theorem assignLevels (restore : LevelsRestore reader levels rows agains)
    (distinct : ∀ level ∈ levels, (level.options.map OptionSpec.flag).Nodup)
    (apart : LevelsApart levels rows) {olds : List (List Value)}
    (sized : List.Forall₂ (fun level old => old.length = level.options.length) levels olds)
    {tokens : List String} (written : Value.levelTokens levels rows = .ok tokens) :
    (assignLevels reader levels olds tokens).rows = agains ∧
      (OptionProtocol.assignLevels reader levels olds tokens).leftover = .ok [] := by
  induction restore generalizing olds tokens with
  | nil =>
    cases sized
    rw [Value.levelTokens_nil] at written
    cases written
    exact ⟨rfl, rfl⟩
  | @cons level levels row again rows agains first above ih =>
    cases sized with
    | @cons _ old _ olds size sized =>
      obtain ⟨own, writtenOwn, _⟩ := first.tokens
      obtain ⟨more, writtenAbove, _⟩ := above.tokens
      obtain rfl : own ++ more = tokens := by
        rw [Value.levelTokens_cons_ok writtenOwn writtenAbove] at written
        exact Except.ok.inj written
      obtain ⟨unique, distinct⟩ := List.forall_mem_cons.mp distinct
      -- The level leaves just the tokens of the levels above it.
      obtain ⟨fault, values, left⟩ :=
        first.assignRow_ofTexts unique (apart.1 more writtenAbove) size writtenOwn
      obtain ⟨others, leftover⟩ := ih distinct apart.2 sized writtenAbove
      simp only [OptionProtocol.assignLevels, fault, values, left]
      exact ⟨congrArg (again :: ·) others, leftover⟩

end LevelsRestore

theorem ClassId.nodup_flags (id : ClassId) :
    ∀ level ∈ id.levels, (level.options.map OptionSpec.flag).Nodup := by
  cases id <;> decide

theorem ClassId.length_defaultRows (id : ClassId) :
    List.Forall₂ (fun level old => old.length = level.options.length) id.levels
      id.defaultRows := by
  rw [defaultRows, List.forall₂_map_right_iff, List.forall₂_same]
  intro level _
  simp [Level.defaults]

theorem rowRestores_of_fits {specs : List OptionSpec} {row : List Value}
    (fits : RowFits specs row) (floats : ∀ value ∈ row, value.FloatsReadBack)
    (inner : ∀ value ∈ row, value.Inside Handler.Restorable) :
    ∃ agains, RowRestores readObject specs row agains := by
  induction fits with
  | nil => exact ⟨[], .nil⟩
  | cons first _ ih =>
    obtain ⟨float, floats⟩ := List.forall_mem_cons.mp floats
    obtain ⟨here, inner⟩ := List.forall_mem_cons.mp inner
    obtain ⟨again, restores, accepts, same⟩ := first.1.restores float here
    obtain ⟨agains, rest⟩ := ih floats inner
    exact ⟨again :: agains, .cons restores (accepts.trans first.2) same rest⟩

theorem levelsRestore_of_fits {levels : List Level} {rows : List (List Value)}
    (fits : LevelsFit levels rows) (floats : ∀ row ∈ rows, ∀ value ∈ row, value.FloatsReadBack)
    (inner : ∀ row ∈ rows, ∀ value ∈ row, value.Inside Handler.Restorable) :
    ∃ agains, LevelsRestore readObject levels rows agains := by
  induction fits with
  | nil => exact ⟨[], .nil⟩
  | cons first _ ih =>
    obtain ⟨float, floats⟩ := List.forall_mem_cons.mp floats
    obtain ⟨here, inner⟩ := List.forall_mem_cons.mp inner
    obtain ⟨again, restores⟩ := rowRestores_of_fits first float here
    obtain ⟨agains, above⟩ := ih floats inner
    exact ⟨again :: agains, .cons restores above⟩

namespace Handler

/-- A new object reads the own tokens of a handler whose inner handlers are read back: it takes
all of them, and has the same tokens afterwards. -/
theorem Valid.assignLevels {handler : Handler} (valid : handler.Valid)
    (floats : handler.FloatsReadBack) (apart : handler.Unambiguous)
    (inner : ∀ inner, handler.Holds inner → inner.Restorable) :
    ∃ tokens agains, handler.getOptions = .ok tokens ∧
      getOptions ⟨handler.id, agains⟩ = .ok tokens ∧
      (assignLevels readObject handler.id.levels handler.id.defaultRows tokens).rows = agains ∧
      (OptionProtocol.assignLevels readObject handler.id.levels handler.id.defaultRows
        tokens).leftover = .ok [] := by
  obtain ⟨agains, restore⟩ :=
    levelsRestore_of_fits valid.fits floats (forall_holds_iff.mp inner)
  obtain ⟨tokens, written, same⟩ := restore.tokens
  exact ⟨tokens, agains, written, same, restore.assignLevels handler.id.nodup_flags apart
    handler.id.length_defaultRows written⟩

end Handler

/-- An object is read from a command line of its class once its options are. -/
theorem readObject_join {id : ClassId} (concrete : id.IsConcrete) {base : Option ClassId}
    (derives : ∀ required ∈ base, id.derivesFrom required = true) (flag : Option String)
    {tokens : List String}
    (taken : (assignLevels readObject id.levels id.defaultRows tokens).leftover = .ok []) :
    (readObject base flag (CommandLine.join (id.name :: tokens))).result =
      .ok (.object id (assignLevels readObject id.levels id.defaultRows tokens).rows) := by
  have derived : (base.filter fun base =>
      !(Catalogue.Referent.classRef id).derivesFrom base) = none := by
    rw [Option.filter_eq_none_iff]
    intro required member
    simp [Catalogue.Referent.derivesFrom, derives required member]
  have resolved : resolveClass id.name flag = .ok (.classRef id) := by
    rw [resolveClass, ClassId.resolve_name concrete]
  have split : CommandLine.tokens (CommandLine.join (id.name :: tokens)) =
      .ok (id.name :: tokens) := by
    rw [CommandLine.tokens, CommandLine.split_join]
  have instantiable : (Catalogue.Referent.classRef id).instantiable = .ok id := by
    simp [Catalogue.Referent.instantiable, concrete.2]
  rw [readObject_eq]
  simp only [readObjectBy, ClassId.isAllBlank_commandLine concrete, Bool.false_eq_true,
    if_false, split, resolved, derived, instantiable, configure, concrete.1, if_true, taken]

namespace Handler

variable {handler : Handler}

-- From the innermost handlers on: those inside are read back while the options are.
theorem restorable (valid : handler.Throughout Valid)
    (floats : handler.Throughout FloatsReadBack) (apart : handler.Throughout Unambiguous) :
    handler.Restorable := by
  induction valid with
  | @node handler valid inside ih =>
    obtain ⟨tokens, agains, written, same, rows, taken⟩ :=
      valid.assignLevels floats.here apart.here fun inner holds =>
        ih inner holds (floats.inside holds) (apart.inside holds)
    refine ⟨CommandLine.join (handler.id.name :: tokens), agains,
      commandLine_eq_ok.mpr ⟨tokens, written, rfl⟩, commandLine_eq_ok.mpr ⟨tokens, same, rfl⟩, ?_⟩
    · intro base flag derives
      rw [readObject_join valid.concrete derives flag taken, rows]

/-- A learner with an infinite kernel width and texts that need quotes. -/
def quotedLearner : Handler :=
  ⟨.abstractLearner,
    [[.int (-3), .int 7, .float (Binary64.ofRatio false 1 2), .text "it's a \"label\"",
        .path ⟨.root, ["a b", ".."]⟩, .bool false,
        .object .gaussianKernel [[.float (.infinity false)]],
        .list [.float (Binary64.ofRatio true 1 4)]],
      [.bool true, .int 0]]⟩

/-- An ensemble around the learner, with texts spelled like its own flags. -/
def nestedEnsemble : Handler :=
  ⟨.ensemble,
    [[.list [.object .polyKernel [[.int 2, .bool true]]], quotedLearner.toValue,
        .list [.text "-inner", .text ""], .list [.path {}], .int 9, .text "-class", .bool false,
        .tuple [.int 2, .int 3]]]⟩

theorem throughout_nestedEnsemble {property : Handler → Prop}
    (ensemble : property nestedEnsemble) (poly : property ⟨.polyKernel, [[.int 2, .bool true]]⟩)
    (learner : property quotedLearner)
    (gaussian : property ⟨.gaussianKernel, [[.float (.infinity false)]]⟩) :
    nestedEnsemble.Throughout property := by
  have poly := Throughout.leaf poly (by simp [Value.parts, toValue])
  have gaussian := Throughout.leaf gaussian (by simp [Value.parts, toValue])
  have learner : quotedLearner.Throughout property := by
    refine .node learner ?_
    rintro ⟨id, rows⟩ ⟨row, member, value, inside, part⟩
    rcases by simpa [quotedLearner] using member with rfl | rfl
    · simp only [List.mem_cons, List.not_mem_nil, or_false] at inside
      obtain rfl | rfl | rfl | rfl | rfl | rfl | rfl | rfl := inside <;>
        simp [Value.parts, Handler.toValue] at part
      obtain ⟨rfl, rfl⟩ := part
      exact gaussian
    · simp only [List.mem_cons, List.not_mem_nil, or_false] at inside
      obtain rfl | rfl := inside <;> simp [Value.parts, Handler.toValue] at part
  refine .node ensemble ?_
  rintro ⟨id, rows⟩ ⟨row, member, value, inside, part⟩
  obtain rfl := by simpa [nestedEnsemble] using member
  simp only [List.mem_cons, List.not_mem_nil, or_false] at inside
  obtain rfl | rfl | rfl | rfl | rfl | rfl | rfl | rfl := inside <;>
    simp [Value.parts, Handler.toValue] at part
  · obtain ⟨rfl, rfl⟩ := part
    exact poly
  · obtain ⟨rfl, rfl⟩ := part
    exact learner

theorem nestedEnsemble_valid : nestedEnsemble.Throughout Valid := by
  apply throughout_nestedEnsemble <;> refine ⟨by decide, ?_⟩
  · refine .cons (.cons ⟨.array rfl (by decide) (.inl rfl) ?_ (by simp), rfl⟩ <|
      .cons ⟨.single rfl (.object _ (by decide)), rfl⟩ <|
      .cons ⟨.array rfl (by decide) (.inl rfl) ?_ (by simp), rfl⟩ <|
      .cons ⟨.array rfl (by decide) (.inl rfl) ?_ (by simp), rfl⟩ <|
      .cons ⟨.single rfl (.integer (by decide)), rfl⟩ <|
      .cons ⟨.single rfl (.text _), rfl⟩ <|
      .cons ⟨.flag rfl rfl false, rfl⟩ <|
      .cons ⟨.array rfl (by decide) (.inr rfl) ?_ (by simp), rfl⟩ .nil) .nil
    · simp only [List.forall_mem_singleton]
      exact .object _ (by decide)
    · simp only [List.forall_mem_cons]
      exact ⟨.text _, .text _, by simp⟩
    · simp only [List.forall_mem_singleton]
      exact .path (by simp [FilePath.IsProper])
    · simp only [List.forall_mem_cons]
      exact ⟨.long (by decide), .long (by decide), by simp⟩
  · exact .cons (.cons ⟨.single rfl (.integer (by decide)), rfl⟩ <|
      .cons ⟨.flag rfl rfl true, rfl⟩ .nil) .nil
  · refine .cons (.cons ⟨.single rfl (.integer (by decide)), rfl⟩ <|
      .cons ⟨.single rfl (.long (by decide)), rfl⟩ <|
      .cons ⟨.single rfl (.float _), rfl⟩ <|
      .cons ⟨.single rfl (.text _), rfl⟩ <|
      .cons ⟨.single rfl (.path (by simp [FilePath.IsProper])), rfl⟩ <|
      .cons ⟨.flag rfl rfl false, rfl⟩ <|
      .cons ⟨.single rfl (.object _ (by decide)), rfl⟩ <|
      .cons ⟨.array rfl (by decide) (.inl rfl) ?_ (by simp), rfl⟩ .nil)
      (.cons (.cons ⟨.flag rfl rfl true, rfl⟩ <|
        .cons ⟨.single rfl (.integer (by decide)), rfl⟩ .nil) .nil)
    simp only [List.forall_mem_singleton]
    exact .double _
  · exact .cons (.cons ⟨.single rfl (.double _), rfl⟩ .nil) .nil

theorem nestedEnsemble_floats : nestedEnsemble.Throughout FloatsReadBack := by
  apply throughout_nestedEnsemble
  · simp [FloatsReadBack, nestedEnsemble, toValue, Value.parts]
  · simp [FloatsReadBack, Value.parts]
  · simp [FloatsReadBack, quotedLearner, Value.parts]
    exact ⟨by decide +kernel, by decide +kernel⟩
  · simp [FloatsReadBack, Value.parts]
    decide +kernel

theorem nestedEnsemble_unambiguous : nestedEnsemble.Throughout Unambiguous := by
  have alone {row : List Value} {level : Level} (apart : Apart level.options row []) :
      LevelsApart [level] [row] := by
    refine ⟨fun above written => ?_, trivial⟩
    rw [Value.levelTokens_nil] at written
    cases written
    exact apart
  apply throughout_nestedEnsemble
  · exact alone (by decide +kernel)
  · exact alone (by decide)
  · refine ⟨fun above written => ?_, alone (by decide)⟩
    cases written
    decide +kernel
  · exact alone (by decide)

end Handler

end OptionProtocol
