import OptionProtocol.Proofs.Handler.ObjectRoundTrip
import OptionProtocol.Proofs.Handler.Settled

/-! Settled rows make a sound handler: what was read from texts without an announcement is not
written like it, unless it is a path. -/

set_option autoImplicit false

namespace OptionProtocol

open TokenSequence

namespace OptionSpec

variable {spec : OptionSpec} {value : Value} {texts : List String} {flag : String}

/-- What was read from texts without an announcement is not written like it, except for paths. -/
theorem Settled.not_mem_valueTexts (settled : spec.Settled texts value) (word : IsWord flag)
    (absent : announce flag ∉ texts) (paths : announce flag ∉ pathTexts [value]) :
    announce flag ∉ spec.valueTexts value := by
  intro member
  obtain ⟨part, inside, kind, encoded⟩ := settled.fits.mem_valueTexts member
  have concrete : part.Inside (·.id.IsConcrete) :=
    kind.inside inside fun handler held => (settled.inner handler held).here.valid.concrete
  rcases kind.text_of_encode word concrete encoded with rfl | ⟨path, rfl, text⟩
  · rcases settled.contents _ inside with found | head
    · exact absent found
    · exact head (announce_head flag)
  · exact paths (mem_pathTexts.mpr ⟨value, by simp, path, inside, text⟩)

theorem Settled.not_mem_tokens (settled : spec.Settled texts value) (word : IsWord flag)
    (absent : announce flag ∉ texts) (paths : announce flag ∉ pathTexts [value])
    (clear : spec.flag = flag → spec.kind = .flag) {own : List String}
    (written : spec.tokens value = .ok own) : announce flag ∉ own := by
  intro member
  rcases (settled.fits.emits written).mem_valueTexts member with ⟨same, set⟩ | text
  · have same : spec.flag = flag := (announce_injective same).symm
    have isFlag := clear same
    exact absent (same ▸ settled.announced isFlag (set isFlag))
  · exact settled.not_mem_valueTexts word absent paths text

end OptionSpec

@[simp] theorem pathTexts_cons (value : Value) (values : List Value) :
    pathTexts (value :: values) = pathTexts [value] ++ pathTexts values := by
  simp [pathTexts]

@[simp] theorem pathTexts_append (front back : List Value) :
    pathTexts (front ++ back) = pathTexts front ++ pathTexts back := by
  simp [pathTexts]

/-- No option of an upper level is announced like an array or a flag below, except for flags. -/
def Level.ClearOf (below above : Level) : Prop :=
  ∀ spec ∈ below.options, spec.isArray = true ∨ spec.kind = .flag →
    ∀ other ∈ above.options, other.flag = spec.flag → other.kind = .flag

instance (below above : Level) : Decidable (below.ClearOf above) :=
  inferInstanceAs (Decidable (∀ spec ∈ below.options, _ → ∀ other ∈ above.options, _ → _))

namespace RowSettled

variable {specs : List OptionSpec} {texts left : List String} {row : List Value} {flag : String}

theorem left_subset (settled : RowSettled specs texts row left) : left ⊆ texts := by
  induction settled with
  | nil => exact List.Subset.refl _
  | cons _ _ fewer _ ih => exact fun text member => fewer (ih member)

theorem not_mem_rowTexts (settled : RowSettled specs texts row left) (word : IsWord flag)
    (absent : announce flag ∉ texts) (paths : announce flag ∉ pathTexts row) :
    announce flag ∉ rowTexts specs row := by
  induction settled with
  | nil => simp [rowTexts]
  | cons first _ fewer _ ih =>
    rw [pathTexts_cons, List.mem_append, not_or] at paths
    rw [rowTexts, List.mem_append, not_or]
    exact ⟨first.not_mem_valueTexts word absent paths.1,
      ih (fun member => absent (fewer member)) paths.2⟩

theorem not_mem_tokens (settled : RowSettled specs texts row left) (word : IsWord flag)
    (absent : announce flag ∉ texts) (paths : announce flag ∉ pathTexts row)
    (clear : ∀ spec ∈ specs, spec.flag = flag → spec.kind = .flag) {tokens : List String}
    (written : Value.rowTokens specs row = .ok tokens) : announce flag ∉ tokens := by
  induction settled generalizing tokens with
  | nil =>
    rw [Value.rowTokens_nil] at written
    cases written
    simp
  | cons first _ fewer _ ih =>
    obtain ⟨own, more, writtenOwn, writtenMore, rfl⟩ := Value.rowTokens_eq_ok written
    obtain ⟨here, clear⟩ := List.forall_mem_cons.mp clear
    rw [pathTexts_cons, List.mem_append, not_or] at paths
    rw [List.mem_append, not_or]
    exact ⟨first.not_mem_tokens word absent paths.1 here writtenOwn,
      ih (fun member => absent (fewer member)) paths.2 clear writtenMore⟩

theorem fits (settled : RowSettled specs texts row left) : RowFits specs row := by
  induction settled with
  | nil => exact .nil
  | cons first _ _ _ ih => exact .cons ⟨first.fits, first.accepted⟩ ih

theorem inner (settled : RowSettled specs texts row left) :
    ∀ value ∈ row, value.Inside fun handler => handler.Throughout Handler.Sound := by
  induction settled with
  | nil => simp
  | cons first _ _ _ ih => exact List.forall_mem_cons.mpr ⟨first.inner, ih⟩

-- The texts shrink from option to option, so what one of them was looking for stays away.
theorem apart (settled : RowSettled specs texts row left) (word : ∀ spec ∈ specs, IsWord spec.flag)
    {above : List Value} (paths : PathsApart specs row above) {behind : List String}
    (rest : ∀ spec ∈ specs, spec.isArray = true ∨ spec.kind = .flag →
      announce spec.flag ∉ left → announce spec.flag ∉ pathTexts above →
        announce spec.flag ∉ behind) : Apart specs row behind := by
  induction settled with
  | nil => trivial
  | @cons spec specs value row texts middle left first sought fewer more ih =>
    obtain ⟨named, word⟩ := List.forall_mem_cons.mp word
    obtain ⟨ends, rest⟩ := List.forall_mem_cons.mp rest
    refine ⟨?_, ih word paths.2 rest⟩
    intro seeks
    -- What the option was looking for is gone from the tokens that the later ones were read from.
    have absent := sought seeks
    have clear := paths.1 seeks
    rw [pathTexts_append, List.mem_append, not_or] at clear
    have seeking : spec.isArray = true ∨ spec.kind = .flag := seeks.imp_right And.left
    exact ⟨more.not_mem_rowTexts named absent clear.1,
      ends seeking (fun member => absent (more.left_subset member)) clear.2⟩

end RowSettled

namespace LevelsSettled

variable {levels : List Level} {texts : List String} {rows : List (List Value)} {flag : String}

theorem not_mem_tokens (settled : LevelsSettled levels texts rows) (word : IsWord flag)
    (absent : announce flag ∉ texts) (paths : announce flag ∉ pathTexts rows.flatten)
    (clear : ∀ level ∈ levels, ∀ spec ∈ level.options, spec.flag = flag → spec.kind = .flag)
    {tokens : List String} (written : Value.levelTokens levels rows = .ok tokens) :
    announce flag ∉ tokens := by
  induction settled generalizing tokens with
  | nil =>
    rw [Value.levelTokens_nil] at written
    cases written
    simp
  | cons first _ ih =>
    obtain ⟨own, above, writtenOwn, writtenAbove, rfl⟩ := Value.levelTokens_eq_ok written
    obtain ⟨here, clear⟩ := List.forall_mem_cons.mp clear
    rw [List.flatten_cons, pathTexts_append, List.mem_append, not_or] at paths
    rw [List.mem_append, not_or]
    exact ⟨first.not_mem_tokens word absent paths.1 here writtenOwn,
      ih (fun member => absent (first.left_subset member)) paths.2 clear writtenAbove⟩

theorem apart (settled : LevelsSettled levels texts rows)
    (word : ∀ level ∈ levels, ∀ spec ∈ level.options, IsWord spec.flag)
    (clear : levels.Pairwise Level.ClearOf) (paths : LevelsPathsApart levels rows) :
    LevelsApart levels rows := by
  induction settled with
  | nil => trivial
  | @cons level levels row rows texts middle first above ih =>
    obtain ⟨below, clear⟩ := List.pairwise_cons.mp clear
    obtain ⟨named, word⟩ := List.forall_mem_cons.mp word
    refine ⟨?_, ih word clear paths.2⟩
    intro tokens written
    apply first.apart named paths.1
    intro spec member seeking absent pathless
    exact above.not_mem_tokens (named spec member) absent pathless
      (fun upper inside other => below upper inside spec member seeking other) written

theorem fits (settled : LevelsSettled levels texts rows) : LevelsFit levels rows := by
  induction settled with
  | nil => exact .nil
  | cons first _ ih => exact .cons first.fits ih

theorem inner (settled : LevelsSettled levels texts rows) :
    ∀ row ∈ rows, ∀ value ∈ row, value.Inside fun handler => handler.Throughout Handler.Sound := by
  induction settled with
  | nil => simp
  | cons first _ ih => exact List.forall_mem_cons.mpr ⟨first.inner, ih⟩

end LevelsSettled

/-- Settled rows make a sound handler. -/
theorem LevelsSettled.throughout {id : ClassId} {texts : List String} {rows : List (List Value)}
    (settled : LevelsSettled id.levels texts rows) (concrete : id.IsConcrete)
    (word : ∀ level ∈ id.levels, ∀ spec ∈ level.options, IsWord spec.flag)
    (clear : id.levels.Pairwise Level.ClearOf) :
    (Handler.mk id rows).Throughout Handler.Sound := by
  refine .node ⟨⟨concrete, settled.fits⟩, settled.apart word clear⟩ ?_
  exact Handler.forall_holds_iff.mpr settled.inner

theorem ClassId.isWord_flags (id : ClassId) :
    ∀ level ∈ id.levels, ∀ spec ∈ level.options, IsWord spec.flag := by
  cases id <;> decide

theorem ClassId.clearOf_levels (id : ClassId) : id.levels.Pairwise Level.ClearOf := by
  cases id <;> decide

end OptionProtocol
