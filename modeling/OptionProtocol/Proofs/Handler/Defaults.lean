import OptionProtocol.Proofs.Handler.Sound

/-! The catalogue is regular: every default is settled before anything is read, so new objects
are sound. -/

set_option autoImplicit false

namespace OptionProtocol

open TokenSequence Catalogue

namespace OptionSpec

variable {spec : OptionSpec} {value : Value}

-- Objects need what is known of them, and texts must not begin like an announcement.
theorem Settled.of_single (single : spec.isArray = false)
    (kind : value.OfKind spec.base spec.kind) (simple : spec.kind ≠ .object)
    (accepted : spec.accepts value = .ok true)
    (contents : ∀ content, value = .text content → content.toList.head? ≠ some '-') :
    spec.Settled [] value where
  fits := .single single kind
  accepted := accepted
  inner handler part := by
    rw [kind.parts_eq, List.mem_singleton] at part
    rw [← part] at kind
    exact absurd kind.eq_object simple
  contents content part := by
    rw [kind.parts_eq, List.mem_singleton] at part
    exact .inr (contents content part.symm)
  announced flag := absurd flag kind.ne_flag

theorem Settled.of_unset (single : spec.isArray = false) (flag : spec.kind = .flag)
    (free : spec.constraint = none) : spec.Settled [] (.bool false) where
  fits := .flag single flag false
  accepted := by simp [accepts, free]
  inner := by simp [Value.parts, Handler.toValue]
  contents := by simp [Value.parts]
  announced := by simp [Value.isTruthy]

theorem Settled.of_object (handler : Handler) (single : spec.isArray = false)
    (object : spec.kind = .object)
    (derives : ∀ required ∈ spec.base, handler.id.derivesFrom required = true)
    (free : spec.constraint = none) (sound : handler.Throughout Handler.Sound) :
    spec.Settled [] handler.toValue where
  fits := .single single (by rw [object]; exact .object _ derives)
  accepted := by simp [accepts, free]
  inner other part := by
    obtain rfl := Handler.toValue_injective (List.mem_singleton.mp part)
    exact sound
  contents := by simp [Value.parts, Handler.toValue]
  announced flag := by simp [object] at flag

end OptionSpec

theorem rowSettled_defaults {specs : List OptionSpec}
    (settled : ∀ spec ∈ specs, spec.Settled [] spec.default) :
    RowSettled specs [] (specs.map OptionSpec.default) [] := by
  induction specs with
  | nil => exact .nil []
  | cons spec specs ih =>
    exact .cons (settled spec (by simp)) (by simp) (List.Subset.refl _)
      (ih fun other member => settled other (by simp [member]))

theorem levelsSettled_defaults {levels : List Level}
    (settled : ∀ level ∈ levels, ∀ spec ∈ level.options, spec.Settled [] spec.default) :
    LevelsSettled levels [] (levels.map Level.defaults) := by
  induction levels with
  | nil => exact .nil []
  | cons level levels ih =>
    exact .cons (rowSettled_defaults (settled level (by simp)))
      (ih fun other member => settled other (by simp [member]))

theorem ClassId.fresh_sound {id : ClassId} (concrete : id.IsConcrete)
    (settled : ∀ level ∈ id.levels, ∀ spec ∈ level.options, spec.Settled [] spec.default) :
    (Handler.fresh id).Throughout Handler.Sound :=
  (levelsSettled_defaults settled).throughout concrete id.isWord_flags id.clearOf_levels

namespace Catalogue

theorem settled_gaussianKernel : ∀ spec ∈ gaussianKernel.options, spec.Settled [] spec.default := by
  intro spec member
  obtain rfl := List.mem_singleton.mp member
  exact .of_single rfl (.double _) (by decide) rfl (by simp)

theorem settled_polyKernel : ∀ spec ∈ polyKernel.options, spec.Settled [] spec.default := by
  intro spec member
  simp only [polyKernel, List.mem_cons, List.not_mem_nil, or_false] at member
  rcases member with rfl | rfl
  · exact .of_single rfl (.integer (by decide)) (by decide) rfl (by simp)
  · exact .of_unset rfl rfl rfl

theorem settled_baseClassifier : ∀ spec ∈ baseClassifier.options, spec.Settled [] spec.default := by
  intro spec member
  simp only [baseClassifier, List.mem_cons, List.not_mem_nil, or_false] at member
  rcases member with rfl | rfl
  · exact .of_unset rfl rfl rfl
  · exact .of_single rfl (.integer (by decide)) (by decide) rfl (by simp)

end Catalogue

namespace OptionSpec

variable {spec : OptionSpec}

theorem Regular.of_simple (settled : spec.Settled [] spec.default) (valued : spec.kind ≠ .flag)
    (simple : spec.kind ≠ .object) : spec.Regular where
  default _ := settled
  flag := (absurd · valued)
  base := (absurd · simple)

theorem Regular.of_single (single : spec.isArray = false)
    (kind : spec.default.OfKind spec.base spec.kind) (simple : spec.kind ≠ .object)
    (accepted : spec.accepts spec.default = .ok true)
    (contents : ∀ content, spec.default = .text content → content.toList.head? ≠ some '-') :
    spec.Regular :=
  .of_simple (.of_single single kind simple accepted contents) kind.ne_flag simple

theorem Regular.of_flag (flag : spec.kind = .flag) (single : spec.isArray = false)
    (free : spec.constraint = none) : spec.Regular where
  default := (absurd flag ·)
  flag _ := ⟨single, free⟩
  base := by simp [flag]

theorem Regular.of_base {base : ClassId} (settled : spec.Settled [] spec.default)
    (object : spec.kind = .object) (based : spec.base = some base)
    (isHandler : base.isHandler = true) : spec.Regular where
  default _ := settled
  flag := by simp [object]
  base _ := ⟨base, based, isHandler⟩

end OptionSpec

namespace ClassId

theorem gaussianKernel_sound : (Handler.fresh .gaussianKernel).Throughout Handler.Sound :=
  fresh_sound (by decide) (by simpa [levels] using settled_gaussianKernel)

theorem polyKernel_sound : (Handler.fresh .polyKernel).Throughout Handler.Sound :=
  fresh_sound (by decide) (by simpa [levels] using settled_polyKernel)

theorem baseClassifier_sound : (Handler.fresh .baseClassifier).Throughout Handler.Sound :=
  fresh_sound (by decide) (by simpa [levels] using settled_baseClassifier)

end ClassId

namespace Catalogue

open OptionSpec

theorem regular_gaussianKernel : ∀ spec ∈ gaussianKernel.options, spec.Regular := by
  intro spec member
  have settled := settled_gaussianKernel spec member
  obtain rfl := List.mem_singleton.mp member
  exact .of_simple settled (by decide) (by decide)

theorem regular_polyKernel : ∀ spec ∈ polyKernel.options, spec.Regular := by
  intro spec member
  have settled := settled_polyKernel spec member
  simp only [polyKernel, List.mem_cons, List.not_mem_nil, or_false] at member
  rcases member with rfl | rfl
  · exact .of_simple settled (by decide) (by decide)
  · exact .of_flag rfl rfl rfl

theorem regular_baseClassifier : ∀ spec ∈ baseClassifier.options, spec.Regular := by
  intro spec member
  have settled := settled_baseClassifier spec member
  simp only [baseClassifier, List.mem_cons, List.not_mem_nil, or_false] at member
  rcases member with rfl | rfl
  · exact .of_flag rfl rfl rfl
  · exact .of_simple settled (by decide) (by decide)

theorem regular_abstractLearner : ∀ spec ∈ abstractLearner.options, spec.Regular := by
  intro spec member
  simp only [abstractLearner, List.mem_cons, List.not_mem_nil, or_false] at member
  rcases member with rfl | rfl | rfl | rfl | rfl | rfl | rfl | rfl
  · exact .of_single rfl (.integer (by decide)) (by decide) rfl (by simp)
  · exact .of_single rfl (.long (by decide)) (by decide) rfl (by simp)
  · exact .of_single rfl (.float _) (by decide) rfl (by simp)
  · exact .of_single rfl (.text _) (by decide) rfl (by simp)
  · exact .of_single rfl (.path (by simp [FilePath.IsProper])) (by decide) rfl (by simp)
  · exact .of_flag rfl rfl rfl
  · exact .of_base (.of_object (.fresh .gaussianKernel) rfl rfl (by decide) rfl
      ClassId.gaussianKernel_sound) rfl rfl (by decide)
  · refine .of_simple (.of_sequence _ rfl (by decide) (.inl rfl) (by simp) rfl ?_
      (by simp [Handler.toValue]) (by simp)) (by decide) (by decide)
    intro item member
    simp only [List.mem_cons, List.not_mem_nil, or_false] at member
    obtain rfl | rfl := member <;> exact .double _

theorem regular_ensemble : ∀ spec ∈ ensemble.options, spec.Regular := by
  intro spec member
  simp only [ensemble, List.mem_cons, List.not_mem_nil, or_false] at member
  rcases member with rfl | rfl | rfl | rfl | rfl | rfl | rfl | rfl
  · refine .of_base (.of_sequence [Handler.toValue (.fresh .gaussianKernel),
      Handler.toValue (.fresh .polyKernel)] rfl (by decide) (.inl rfl) (by simp) rfl ?_ ?_
      (by simp [Handler.toValue])) rfl rfl (by decide)
    · intro item member
      simp only [List.mem_cons, List.not_mem_nil, or_false] at member
      obtain rfl | rfl := member <;> exact .object _ (by decide)
    · intro handler member
      simp only [List.mem_cons, List.not_mem_nil, or_false] at member
      obtain same | same := member <;> obtain rfl := Handler.toValue_injective same
      · exact ClassId.gaussianKernel_sound
      · exact ClassId.polyKernel_sound
  · exact .of_base (.of_object (.fresh .baseClassifier) rfl rfl (by decide) rfl
      ClassId.baseClassifier_sound) rfl rfl (by decide)
  · exact .of_simple (.of_sequence [] rfl (by decide) (.inl rfl) (fun _ => rfl) rfl
      (by simp) (by simp) (by simp)) (by decide) (by decide)
  · refine .of_simple (.of_sequence _ rfl (by decide) (.inl rfl) (by simp) rfl ?_
      (by simp [Handler.toValue]) (by simp)) (by decide) (by decide)
    intro item member
    obtain rfl := List.mem_singleton.mp member
    exact .path (by simp [FilePath.IsProper])
  · exact .of_single rfl (.integer (by decide)) (by decide) rfl (by simp)
  · exact .of_single rfl (.text _) (by decide) rfl (by simp)
  · exact .of_flag rfl rfl rfl
  · refine .of_simple (.of_sequence _ rfl (by decide) (.inr rfl) (by simp) rfl ?_
      (by simp [Handler.toValue]) (by simp)) (by decide) (by decide)
    intro item member
    simp only [List.mem_cons, List.not_mem_nil, or_false] at member
    obtain rfl | rfl := member <;> exact .long (by decide)

theorem regular_childLearner : ∀ spec ∈ childLearner.options, spec.Regular := by
  intro spec member
  simp only [childLearner, List.mem_cons, List.not_mem_nil, or_false] at member
  rcases member with rfl | rfl | rfl
  · exact .of_single rfl (.integer (by decide)) (by decide) rfl (by simp)
  · exact .of_single rfl (.text _) (by decide) rfl (by simp)
  · exact .of_flag rfl rfl rfl

end Catalogue

theorem ClassId.regular (id : ClassId) :
    ∀ level ∈ id.levels, ∀ spec ∈ level.options, spec.Regular := by
  cases id with
  | gaussianKernel => simpa [levels] using regular_gaussianKernel
  | polyKernel => simpa [levels] using regular_polyKernel
  | baseClassifier => simpa [levels] using regular_baseClassifier
  | abstractLearner =>
    simpa [levels] using And.intro regular_abstractLearner regular_baseClassifier
  | ensemble => simpa [levels] using regular_ensemble
  | childLearner =>
    simpa [levels] using
      And.intro regular_childLearner (And.intro regular_abstractLearner regular_baseClassifier)
  | _ => simp [levels]

end OptionProtocol
