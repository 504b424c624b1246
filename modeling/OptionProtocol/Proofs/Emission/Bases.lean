import OptionProtocol.Emission.Python
import OptionProtocol.Proofs.Except
import OptionProtocol.Proofs.Table

/-! Base classes. Classes go together as bases when no two of them have the same last name. In which
order they are named and how often does not matter for that, and the contract of option handlers
never gets in the way. -/

set_option autoImplicit false

namespace OptionProtocol

/-- The base classes that the definition names, in their order. -/
def Definition.baseNames (d : Definition) : List String :=
  (if d.superclass = "" then [] else [d.superclass]) ++ d.implement

namespace Bases

/-- The classes among the names, without the contract of option handlers. -/
def classes (names : List String) : List String := names.filter fun name => !Name.isCapability name

/-- No two different classes have the same last name. -/
def Apart (names : List String) : Prop :=
  ∀ a ∈ names, ∀ b ∈ names, Name.last a = Name.last b → a = b

/-- The bases are made from the classes, in that order. -/
structure Records (b : Bases) (seen : List String) : Prop where
  known : b.known = seen.map fun name => (Name.last name, name)
  statements : b.statements = seen.filterMap Import.ofClass
  apart : Apart seen

variable {b next : Bases} {seen names : List String} {name dotted : String} {d : Definition}

theorem mem_classes : name ∈ classes names ↔ name ∈ names ∧ Name.isCapability name = false := by
  simp [classes]

theorem classes_cons (dotted : String) (names : List String) :
    classes (dotted :: names) = classes [dotted] ++ classes names := by
  simp [classes, List.filter_cons]
  split <;> rfl

theorem Apart.mono {fewer : List String} (apart : Apart names) (less : fewer ⊆ names) :
    Apart fewer := fun a first b second => apart a (less first) b (less second)

theorem apart_append_singleton :
    Apart (seen ++ [dotted]) ↔
      Apart seen ∧ ∀ a ∈ seen, Name.last a = Name.last dotted → a = dotted := by
  constructor
  · exact fun apart => ⟨apart.mono (List.subset_append_left _ _),
      fun a member => apart a (List.mem_append_left _ member) dotted (by simp)⟩
  · rintro ⟨apart, others⟩ a first b second same
    simp only [List.mem_append, List.mem_singleton] at first second
    obtain first | rfl := first <;> obtain second | rfl := second
    · exact apart a first b second same
    · exact others a first same
    · exact (others b second same.symm).symm
    · rfl

@[simp] theorem known_withName (b : Bases) (name : String) : (b.withName name).known = b.known := by
  unfold withName
  split <;> rfl

@[simp] theorem statements_withName (b : Bases) (name : String) :
    (b.withName name).statements = b.statements := by
  unfold withName
  split <;> rfl

namespace Records

theorem of_lookup (records : b.Records seen) {first : String}
    (found : b.known.lookup name = some first) : first ∈ seen ∧ Name.last first = name := by
  rw [records.known] at found
  obtain ⟨other, member, same⟩ := List.mem_map.mp (Table.mem_of_lookup found)
  obtain ⟨rfl, rfl⟩ := Prod.mk.inj same
  exact ⟨member, rfl⟩

theorem last_ne_of_lookup (records : b.Records seen) (missing : b.known.lookup name = none)
    {first : String} (member : first ∈ seen) : Name.last first ≠ name := by
  rw [records.known, List.lookup_eq_none_iff] at missing
  exact (bne_iff_ne.mp (missing _ (List.mem_map_of_mem member))).symm

/-- One more class stays apart from the others if it is the one that has its last name. -/
theorem apart_concat_iff (records : b.Records seen) : Apart (seen ++ [dotted]) ↔
    ∀ first, b.known.lookup (Name.last dotted) = some first → first = dotted := by
  rw [apart_append_singleton, and_iff_right records.apart]
  constructor
  · intro others first found
    obtain ⟨member, last⟩ := records.of_lookup found
    exact others first member last
  · intro named a member last
    cases found : b.known.lookup (Name.last dotted) with
    | none => exact absurd last (records.last_ne_of_lookup found member)
    | some first =>
      obtain rfl := named first found
      exact records.apart a member first (records.of_lookup found).1 last

theorem classes_of_isCapability (capability : Name.isCapability dotted = true) :
    classes [dotted] = [] := by simp [classes, capability]

theorem classes_of_other (other : Name.isCapability dotted = false) :
    classes [dotted] = [dotted] := by simp [classes, other]

/-- One more base is recorded, if it is a class. -/
theorem of_add (records : b.Records seen) (ok : b.add dotted = .ok next) :
    next.Records (seen ++ classes [dotted]) := by
  unfold add at ok
  cases capability : Name.isCapability dotted with
  | true =>
    simp only [capability, if_true, Except.ok.injEq] at ok
    rw [classes_of_isCapability capability, List.append_nil, ← ok]
    exact ⟨by simp [records.known], by simp [records.statements], records.apart⟩
  | false =>
    simp only [capability, Bool.false_eq_true, if_false] at ok
    rw [classes_of_other capability]
    obtain ⟨named, rfl⟩ : (∀ first, b.known.lookup (Name.last dotted) = some first →
        first = dotted) ∧ { b.withName (Name.last dotted) with
          known := b.known ++ [(Name.last dotted, dotted)]
          statements := b.statements ++ (Import.ofClass dotted).toList } = next := by
      split at ok
      · rename_i first found
        split at ok
        · rename_i same
          exact ⟨fun other again => (Option.some.inj (again.symm.trans found)).trans same,
            Except.ok.inj ok⟩
        · cases ok
      · rename_i missing
        refine ⟨fun first found => ?_, Except.ok.inj ok⟩
        cases missing.symm.trans found
    exact {
      known := by simp [records.known]
      statements := by
        rw [List.filterMap_append, records.statements]
        cases imported : Import.ofClass dotted <;> simp [imported]
      apart := records.apart_concat_iff.mpr named }

theorem exists_add (records : b.Records seen) (apart : Apart (seen ++ classes [dotted])) :
    ∃ next, b.add dotted = .ok next := by
  unfold add
  cases capability : Name.isCapability dotted with
  | true => exact ⟨_, rfl⟩
  | false =>
    rw [classes_of_other capability] at apart
    simp only [Bool.false_eq_true, if_false]
    split
    · rename_i first found
      rw [if_pos (records.apart_concat_iff.mp apart first found)]
      exact ⟨_, rfl⟩
    · exact ⟨_, rfl⟩

theorem of_addAll (records : b.Records seen) (ok : b.addAll names = .ok next) :
    next.Records (seen ++ classes names) := by
  induction names generalizing b seen with
  | nil =>
    cases ok
    simpa [classes] using records
  | cons dotted names ih =>
    rw [addAll] at ok
    split at ok
    · rename_i step
      rw [classes_cons, ← List.append_assoc]
      exact ih (records.of_add step) ok
    · cases ok

theorem exists_addAll (records : b.Records seen) (apart : Apart (seen ++ classes names)) :
    ∃ next, b.addAll names = .ok next := by
  induction names generalizing b seen with
  | nil => exact ⟨b, rfl⟩
  | cons dotted names ih =>
    rw [classes_cons, ← List.append_assoc] at apart
    obtain ⟨next, step⟩ := records.exists_add (apart.mono (List.subset_append_left _ _))
    rw [addAll, step]
    exact ih (records.of_add step) apart

end Records

theorem records_empty : ({} : Bases).Records [] := ⟨rfl, rfl, by simp [Apart]⟩

/-- What makes the classes known is imported from where they are. -/
theorem statements_ofDefinition {bases : Bases} (ok : ofDefinition d = .ok bases) :
    bases.statements = (classes d.baseNames).filterMap Import.ofClass := by
  obtain ⟨b, added, rfl⟩ := map_eq_ok.mp ok
  have records := records_empty.of_addAll added
  rw [apply_ite statements, ite_self]
  exact records.statements

/-- A definition has bases just if the classes it names are apart. -/
theorem ofDefinition_ok_iff :
    (∃ bases, ofDefinition d = .ok bases) ↔ Apart (classes d.baseNames) := by
  constructor
  · rintro ⟨bases, ok⟩
    obtain ⟨b, added, rfl⟩ := map_eq_ok.mp ok
    exact (records_empty.of_addAll added).apart
  · intro apart
    obtain ⟨b, added⟩ := records_empty.exists_addAll apart
    exact ⟨_, map_eq_ok.mpr ⟨b, added, rfl⟩⟩

end Bases

end OptionProtocol
