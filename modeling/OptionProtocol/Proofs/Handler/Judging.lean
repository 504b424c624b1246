import OptionProtocol.Proofs.Handler.Typing

/-! Constraints have an answer for whatever is read. A constraint may have none for a value of
another kind, but what is read for an option is of the kind that the option declares, and no
constraint of a class is put on a kind that it cannot judge. -/

set_option autoImplicit false

namespace OptionProtocol

open TokenSequence

def Kind.isNumeric : Kind → Bool
  | .integer | .long | .float | .double => true
  | _ => false

/-- The constraint has an answer for all values of the kind, or for all arrays of them. -/
def Constraint.judges (constraint : Constraint) (kind : Kind) (isArray : Bool) : Bool :=
  match constraint with
  | .above _ | .within _ _ => !isArray && kind.isNumeric
  | .lengthAtMost _ => isArray
  | .eachAbove _ => isArray && kind.isNumeric
  | .notText _ => true

namespace Constraint

variable {constraint : Constraint} {base : Option ClassId} {kind : Kind} {value : Value}
  {items : List Value}

theorem exists_compareInt (ofKind : value.OfKind base kind)
    (numeric : kind.isNumeric = true) (bound : Int) : ∃ order, value.compareInt bound = .ok order := by
  cases ofKind with
  | integer | long | float | double => exact ⟨_, rfl⟩
  | text | path | object => cases numeric

theorem exists_isAbove (ofKind : value.OfKind base kind)
    (numeric : kind.isNumeric = true) (bound : Int) : ∃ verdict, isAbove bound value = .ok verdict := by
  obtain ⟨order, compared⟩ := exists_compareInt ofKind numeric bound
  exact ⟨_, map_eq_ok.mpr ⟨order, compared, rfl⟩⟩

theorem exists_allAbove (kinds : ∀ item ∈ items, item.OfKind base kind)
    (numeric : kind.isNumeric = true) (bound : Int) : ∃ verdict, allAbove bound items = .ok verdict := by
  induction items with
  | nil => exact ⟨true, rfl⟩
  | cons item items ih =>
    obtain ⟨first, kinds⟩ := List.forall_mem_cons.mp kinds
    obtain ⟨verdict, here⟩ := exists_isAbove first numeric bound
    cases verdict with
    | false => exact ⟨false, by simp [allAbove, here]⟩
    | true =>
      obtain ⟨verdict, rest⟩ := ih kinds
      exact ⟨verdict, by simp [allAbove, here, rest]⟩

theorem exists_holds_single (judges : constraint.judges kind false = true)
    (ofKind : value.OfKind base kind) : ∃ verdict, constraint.holds value = .ok verdict := by
  cases constraint with
  | above bound => exact exists_isAbove ofKind judges bound
  | lengthAtMost => cases judges
  | within low high =>
    obtain ⟨least, below⟩ := exists_compareInt ofKind judges low
    obtain ⟨most, above⟩ := exists_compareInt ofKind judges high
    by_cases enough : least = some .gt ∨ least = some .eq
    · exact ⟨most == some .lt, by simp [holds, below, above, enough, Except.map]⟩
    · exact ⟨false, by simp [holds, below, enough]⟩
  | eachAbove => cases judges
  | notText => cases ofKind <;> exact ⟨_, rfl⟩

theorem exists_holds_sequence (judges : constraint.judges kind true = true)
    (sequence : value = .list items ∨ value = .tuple items)
    (kinds : ∀ item ∈ items, item.OfKind base kind) :
    ∃ verdict, constraint.holds value = .ok verdict := by
  have held : value.items = .ok items := by
    obtain rfl | rfl := sequence <;> rfl
  cases constraint with
  | above | within => cases judges
  | lengthAtMost => exact ⟨_, map_eq_ok.mpr ⟨items, held, rfl⟩⟩
  | eachAbove bound =>
    obtain ⟨verdict, all⟩ := exists_allAbove kinds judges bound
    exact ⟨verdict, by simp [holds, held, all]⟩
  | notText => obtain rfl | rfl := sequence <;> exact ⟨_, rfl⟩

end Constraint

namespace OptionSpec

/-- The constraint of the option, if it has one, can judge what the option declares. -/
def Judged (spec : OptionSpec) : Prop :=
  ∀ constraint ∈ spec.constraint, constraint.judges spec.kind spec.isArray = true

variable {spec : OptionSpec} {value : Value}

theorem exists_accepts
    (answers : ∀ constraint ∈ spec.constraint, ∃ verdict, constraint.holds value = .ok verdict) :
    ∃ verdict, spec.accepts value = .ok verdict := by
  unfold accepts
  cases constraint : spec.constraint with
  | none => exact ⟨true, rfl⟩
  | some constrained => exact answers constrained constraint

theorem Judged.exists_accepts_single (judged : spec.Judged) (single : spec.isArray = false)
    (kind : value.OfKind spec.base spec.kind) : ∃ verdict, spec.accepts value = .ok verdict := by
  refine exists_accepts fun constraint member => ?_
  have judges := judged constraint member
  rw [single] at judges
  exact constraint.exists_holds_single judges kind

theorem Judged.exists_accepts_sequence (judged : spec.Judged) (array : spec.isArray = true)
    {items : List Value} (sequence : value = .list items ∨ value = .tuple items)
    (kinds : ∀ item ∈ items, item.OfKind spec.base spec.kind) :
    ∃ verdict, spec.accepts value = .ok verdict := by
  refine exists_accepts fun constraint member => ?_
  have judges := judged constraint member
  rw [array] at judges
  exact constraint.exists_holds_sequence judges sequence kinds

-- The default of an array holds items of the kind, and its copy holds the same.
theorem Regular.kinds_of_default (regular : spec.Regular) (array : spec.isArray = true) :
    ∀ item ∈ spec.default.parts, item.OfKind spec.base spec.kind := by
  have valued : spec.kind ≠ .flag := by
    intro flag
    rw [(regular.flag flag).1] at array
    cases array
  have fits := (regular.default valued).fits
  generalize spec.default = default at fits
  cases fits with
  | single single => simp [single] at array
  | flag single => simp [single] at array
  | array _ _ sequence kinds => rwa [Value.parts_of_sequence sequence]

/-- The constraint has an answer for whatever is read for the option. -/
theorem Regular.exists_accepts_of_sourced (regular : spec.Regular) (judged : spec.Judged)
    {texts : List String} (sourced : spec.Sourced readObject texts value) :
    ∃ verdict, spec.accepts value = .ok verdict := by
  cases sourced with
  | default valued => exact ⟨true, (regular.default valued).accepted⟩
  | flag flag => exact exists_accepts (by simp [(regular.flag flag).2])
  | @value single raw _ _ read =>
    exact judged.exists_accepts_single single (regular.readFrom (soundReads raw) read).kind
  | copied array copied =>
    obtain rfl := regular.copyDefault_eq array copied
    exact judged.exists_accepts_sequence array (.inl rfl) (regular.kinds_of_default array)
  | items array each =>
    refine judged.exists_accepts_sequence array (.inl rfl) fun item member => ?_
    obtain ⟨raw, _, read⟩ := each item member
    exact (regular.readFrom (soundReads raw) read).kind

theorem Regular.exists_accepts_of_parse (regular : spec.Regular) (judged : spec.Judged)
    {s : TokenSequence} (read : (spec.parse readObject s).1.result = .ok value) :
    ∃ verdict, spec.accepts value = .ok verdict :=
  regular.exists_accepts_of_sourced judged ((spec.parse_sourced readObject s).2 value read)

end OptionSpec

theorem ClassId.judged (id : ClassId) :
    ∀ level ∈ id.levels, ∀ spec ∈ level.options, spec.Judged := by
  have judges : ∀ level ∈ id.levels, ∀ spec ∈ level.options,
      ∀ constraint ∈ spec.constraint, constraint.judges spec.kind spec.isArray = true := by
    cases id <;> decide
  exact judges

end OptionProtocol
