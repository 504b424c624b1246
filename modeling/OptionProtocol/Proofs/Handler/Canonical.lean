import OptionProtocol.Proofs.Handler.Defaults
import OptionProtocol.Proofs.Handler.Exactness

/-! The tokens of an object that took its options are a canonical form: a new object takes all
of them and gives the same tokens again, unless a path is written like an announcement. -/

set_option autoImplicit false

namespace OptionProtocol

open TokenSequence

theorem ClassId.throughout_sound {id : ClassId} (concrete : id.IsConcrete)
    {tokens left : List String} (sound : ∀ raw ∈ tokens, SoundReads raw)
    (done : (assignLevels readObject id.levels id.defaultRows tokens).leftover = .ok left) :
    (Handler.mk id (assignLevels readObject id.levels id.defaultRows tokens).rows).Throughout
      Handler.Sound :=
  (levelsSettled_of_assignLevels id.regular sound done).throughout concrete id.isWord_flags
    id.clearOf_levels

-- Objects inside a command line come from shorter command lines, so this is a recursion on the
-- length of the text.
theorem soundReads (raw : String) : SoundReads raw := by
  intro base handlers flag value read
  obtain ⟨name, id, tokens, split, _, possible, derives, made⟩ := readObject_ok read
  have derives := derives base rfl
  have isHandler := ClassId.derivesFrom_trans derives handlers
  obtain ⟨taken, rfl⟩ := configure_ok isHandler made
  have sound (text : String) (member : text ∈ tokens) : SoundReads text :=
    have := CommandLine.length_lt_of_split split member
    soundReads text
  exact ⟨⟨id, _⟩, rfl, derives, id.throughout_sound ⟨isHandler, possible⟩ sound taken⟩
termination_by raw.length

theorem RowFits.pathTexts_subset {specs : List OptionSpec} {row : List Value}
    (fits : RowFits specs row) : pathTexts row ⊆ rowTexts specs row := by
  induction fits with
  | nil => simp [pathTexts]
  | cons first _ ih =>
    intro text member
    rw [pathTexts_cons, List.mem_append] at member
    rw [rowTexts, List.mem_append]
    refine member.imp (fun own => ?_) (fun rest => ih rest)
    obtain ⟨other, same, path, part, rfl⟩ := mem_pathTexts.mp own
    obtain rfl := List.mem_singleton.mp same
    exact first.1.path_mem_valueTexts part

theorem LevelsFit.pathTexts_subset {levels : List Level} {rows : List (List Value)}
    (fits : LevelsFit levels rows) {tokens : List String}
    (written : Value.levelTokens levels rows = .ok tokens) : pathTexts rows.flatten ⊆ tokens := by
  induction fits generalizing tokens with
  | nil => simp [pathTexts]
  | cons first _ ih =>
    obtain ⟨own, above, writtenOwn, writtenAbove, rfl⟩ := Value.levelTokens_eq_ok written
    intro text member
    rw [List.flatten_cons, pathTexts_append, List.mem_append] at member
    rw [List.mem_append]
    refine member.imp (fun inside => ?_) (fun inside => ih writtenAbove inside)
    exact RowFits.rowTexts_subset first writtenOwn (RowFits.pathTexts_subset first inside)

theorem RowFits.pathsApart {specs : List OptionSpec} {row above : List Value}
    (fits : RowFits specs row) {behind : List String} (paths : pathTexts above ⊆ behind)
    (apart : Apart specs row behind) : PathsApart specs row above := by
  induction fits with
  | nil => trivial
  | cons _ rest ih =>
    refine ⟨fun seeks member => ?_, ih apart.2⟩
    obtain ⟨own, others⟩ := apart.1 seeks
    rw [pathTexts_append, List.mem_append] at member
    exact member.elim (fun inside => own (RowFits.pathTexts_subset rest inside))
      (fun inside => others (paths inside))

theorem LevelsFit.pathsApart {levels : List Level} {rows : List (List Value)}
    (fits : LevelsFit levels rows) {tokens : List String}
    (written : Value.levelTokens levels rows = .ok tokens) (apart : LevelsApart levels rows) :
    LevelsPathsApart levels rows := by
  induction fits generalizing tokens with
  | nil => trivial
  | cons first rest ih =>
    obtain ⟨_, above, _, writtenAbove, rfl⟩ := Value.levelTokens_eq_ok written
    exact ⟨RowFits.pathsApart first (LevelsFit.pathTexts_subset rest writtenAbove)
      (apart.1 above writtenAbove), ih writtenAbove apart.2⟩

namespace Handler

variable {id : ClassId} {tokens leftover : List String}

theorem setOptions_sound (concrete : id.IsConcrete)
    (accepted : ((fresh id).setOptions tokens).1.result = .ok leftover) :
    ((fresh id).setOptions tokens).2.Throughout Sound :=
  id.throughout_sound concrete (fun raw _ => soundReads raw) accepted

/-- If a new object that takes the tokens of a valid tree gives them again, nothing in the tree
was ambiguous. -/
theorem unambiguous_of_same {handler : Handler} (valid : handler.Throughout Valid)
    (floats : handler.Throughout FloatsReadBack) {options left : List String}
    (own : handler.getOptions = .ok options)
    (done : (assignLevels readObject handler.id.levels handler.id.defaultRows options).leftover =
      .ok left)
    (again : getOptions ⟨handler.id,
      (assignLevels readObject handler.id.levels handler.id.defaultRows options).rows⟩ =
        .ok options) : handler.Throughout Unambiguous := by
  induction valid generalizing options left with
  | @node handler here inside ih =>
    have concrete := forall_holds_iff.mp fun inner holds => (inside inner holds).here.concrete
    obtain ⟨apart, recurs⟩ := LevelsFit.exact here.fits handler.id.orderly handler.id.regular
      handler.id.isWord_flags floats.here concrete own handler.id.length_defaultRows done again
    refine .node apart fun inner holds => ?_
    obtain ⟨text, base, flag, copy, written, read, same⟩ := forall_holds_iff.mpr recurs inner holds
    obtain ⟨innerOptions, innerOwn, taken, rfl⟩ :=
      inner.readObject_own (inside inner holds).here.concrete written read
    obtain ⟨first, firstOwn, line⟩ := commandLine_eq_ok.mp written
    rw [innerOwn] at firstOwn
    cases firstOwn
    -- What was read has the command line of the inner handler, so it has the same tokens.
    have copied : commandLine ⟨inner.id, (assignLevels readObject inner.id.levels
      inner.id.defaultRows innerOptions).rows⟩ = .ok text := same
    obtain ⟨second, secondOwn, line'⟩ := commandLine_eq_ok.mp copied
    have tokens : inner.id.name :: innerOptions = inner.id.name :: second :=
      CommandLine.join_injective (line.trans line'.symm)
    cases tokens
    exact ih inner holds (floats.inside holds) innerOwn taken secondOwn

theorem pathsApart_of_unambiguous {handler : Handler} (valid : handler.Throughout Valid)
    (unambiguous : handler.Throughout Unambiguous) : handler.Throughout PathsApart := by
  induction valid with
  | @node handler here inside ih =>
    obtain ⟨line, written⟩ := exists_commandLine (.node here inside)
    obtain ⟨options, own, _⟩ := commandLine_eq_ok.mp written
    exact .node (LevelsFit.pathsApart here.fits own unambiguous.here)
      fun inner holds => ih inner holds (unambiguous.inside holds)

/-- The tokens that a new object gives after it took its options set another new object to the
same, if and only if no path in it is spelled like an announcement that is looked for before. -/
theorem setOptions_getOptions_iff (concrete : id.IsConcrete)
    (accepted : ((fresh id).setOptions tokens).1.result = .ok leftover)
    (floats : ((fresh id).setOptions tokens).2.Throughout FloatsReadBack) :
    ∃ options, ((fresh id).setOptions tokens).2.getOptions = .ok options ∧
      ((((fresh id).setOptions options).1.result = .ok [] ∧
          ((fresh id).setOptions options).2.getOptions = .ok options) ↔
        ((fresh id).setOptions tokens).2.Throughout PathsApart) := by
  have sound := setOptions_sound concrete accepted
  have valid := sound.mono fun handler sound => sound.valid
  obtain ⟨line, written⟩ := exists_commandLine valid
  obtain ⟨options, own, _⟩ := commandLine_eq_ok.mp written
  refine ⟨options, own, ?_, ?_⟩
  -- The same tokens come out again only if every option has read its own, paths included.
  · rintro ⟨done, again⟩
    exact pathsApart_of_unambiguous valid (unambiguous_of_same valid floats own done again)
  -- What was read from the first tokens is unambiguous but for the paths, so it is read back.
  · intro paths
    have apart := (sound.and paths).mono fun handler both => both.1.unambiguous both.2
    obtain ⟨tokens, agains, written, same, rows, taken⟩ :=
      valid.here.assignLevels floats.here apart.here fun inner holds =>
        restorable (valid.inside holds) (floats.inside holds) (apart.inside holds)
    rw [own] at written
    cases written
    refine ⟨taken, ?_⟩
    rw [← rows] at same
    exact same

-- The leading `./` of a path is gone once it is written again.
theorem setOptions_dashedPath :
    (fresh .ensemble).setOptions ["-I", "./-K"] =
      ({ result := .ok [] },
        ⟨.ensemble, [[.list [ClassId.fresh .gaussianKernel, ClassId.fresh .polyKernel],
          ClassId.fresh .baseClassifier, .list [], .list [.path ⟨.here, ["-K"]⟩], .int 0, .text "",
          .bool false, .list [.int 2, .int 3]]]⟩) := by
  with_unfolding_all rfl

theorem floatsReadBack_dashedPath :
    ((fresh .ensemble).setOptions ["-I", "./-K"]).2.Throughout FloatsReadBack := by
  have gaussian : (fresh .gaussianKernel).Throughout FloatsReadBack := by
    apply Throughout.leaf
    · simp [FloatsReadBack, fresh, ClassId.defaultRows, ClassId.levels, Level.defaults,
        Catalogue.gaussianKernel, Value.parts]
      decide +kernel
    · simp [fresh, ClassId.defaultRows, ClassId.levels, Level.defaults,
        Catalogue.gaussianKernel, Value.parts, toValue]
  have poly : (fresh .polyKernel).Throughout FloatsReadBack := by
    apply Throughout.leaf <;>
      simp [FloatsReadBack, fresh, ClassId.defaultRows, ClassId.levels, Level.defaults,
        Catalogue.polyKernel, Value.parts, toValue]
  have classifier : (fresh .baseClassifier).Throughout FloatsReadBack := by
    apply Throughout.leaf <;>
      simp [FloatsReadBack, fresh, ClassId.defaultRows, ClassId.levels, Level.defaults,
        Catalogue.baseClassifier, Value.parts, toValue]
  rw [setOptions_dashedPath]
  refine .node ?_ ?_
  · simp [FloatsReadBack, Value.parts, ClassId.fresh]
  · rintro ⟨id, rows⟩ ⟨row, member, value, inside, part⟩
    obtain rfl := List.mem_singleton.mp member
    simp only [List.mem_cons, List.not_mem_nil, or_false] at inside
    obtain rfl | rfl | rfl | rfl | rfl | rfl | rfl | rfl := inside <;>
      simp [Value.parts, toValue, ClassId.fresh] at part
    · rcases part with ⟨rfl, rfl⟩ | ⟨rfl, rfl⟩
      · exact gaussian
      · exact poly
    · obtain ⟨rfl, rfl⟩ := part
      exact classifier

theorem setOptions_getOptions_iff_dashedPath :
    ((fresh .ensemble).setOptions ["-I", "./-K"]).1.result = .ok [] ∧
      ∃ options, ((fresh .ensemble).setOptions ["-I", "./-K"]).2.getOptions = .ok options ∧
        ((((fresh .ensemble).setOptions options).1.result = .ok [] ∧
            ((fresh .ensemble).setOptions options).2.getOptions = .ok options) ↔
          ((fresh .ensemble).setOptions ["-I", "./-K"]).2.Throughout PathsApart) := by
  have accepted : ((fresh .ensemble).setOptions ["-I", "./-K"]).1.result = .ok [] := by
    rw [setOptions_dashedPath]
  exact ⟨accepted, setOptions_getOptions_iff (by decide) accepted floatsReadBack_dashedPath⟩

/-- The tokens are accepted, and the tokens that they lead to are not. -/
theorem not_setOptions_getOptions_dashedPath :
    ((fresh .ensemble).setOptions ["-I", "./-K"]).1.result = .ok [] ∧
      ((fresh .ensemble).setOptions ["-I", "./-K"]).2.Throughout FloatsReadBack ∧
      ¬∃ options, ((fresh .ensemble).setOptions ["-I", "./-K"]).2.getOptions = .ok options ∧
        ((fresh .ensemble).setOptions options).1.result = .ok [] ∧
        ((fresh .ensemble).setOptions options).2.getOptions = .ok options := by
  have accepted : ((fresh .ensemble).setOptions ["-I", "./-K"]).1.result = .ok [] := by
    rw [setOptions_dashedPath]
  refine ⟨accepted, floatsReadBack_dashedPath, ?_⟩
  rintro ⟨options, own, done, again⟩
  have valid := (setOptions_sound (by decide) accepted).mono fun handler sound => sound.valid
  have apart := pathsApart_of_unambiguous valid
    (unambiguous_of_same valid floatsReadBack_dashedPath own done again)
  rw [setOptions_dashedPath] at apart
  exact (apart.here.1.1 (.inl rfl)) (by decide)

end Handler

end OptionProtocol
