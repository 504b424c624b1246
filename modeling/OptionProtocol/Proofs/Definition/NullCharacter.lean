import OptionProtocol.Definition.Reading
import OptionProtocol.Proofs.Except

/-! Where a null character can stop the reading of a definition: in the text of a default or
of a constraint, and nowhere else. -/

set_option autoImplicit false

namespace OptionProtocol.Definition

variable {context key : String} {members : Members}

/-- The value stands for an expression with a null character in it. -/
def HasNull (value : Json) : Prop :=
  ∃ text, expressionText? value = some text ∧ '\x00' ∈ text.toList

/-- The default or the constraint of an option has a null character. -/
def OptionHasNull (value : Json) : Prop :=
  ∃ members key given, value = .object members ∧ (key = "default" ∨ key = "constraint") ∧
    Json.lookup? members key = some given ∧ HasNull given

theorem hasNull_of_expression {value : Json}
    (stopped : expression context key value = .error .nullCharacter) : HasNull value := by
  unfold expression at stopped
  split at stopped
  · cases stopped
  · rename_i text written
    split at stopped
    · cases stopped
    · split at stopped
      · rename_i unreadable
        exact ⟨text, written, by simpa [Expression.isReadable] using unreadable⟩
      · split at stopped <;> cases stopped

theorem hasNull_of_optionConstraint
    (stopped : optionConstraint context members = .error .nullCharacter) :
    ∃ given, Json.lookup? members "constraint" = some given ∧ HasNull given := by
  unfold optionConstraint at stopped
  cases found : Json.lookup? members "constraint" with
  | none => simp [found] at stopped
  | some given =>
    simp only [found, Option.getD_some] at stopped
    split at stopped
    · cases stopped
    · exact ⟨given, rfl, hasNull_of_expression (map_eq_error.mp stopped)⟩

theorem ensure_ne {holds : Bool} {cause : DefinitionCause} :
    ensure holds context cause ≠ .error .nullCharacter := by
  unfold ensure
  split <;> simp [invalid]

theorem requiredText_ne : requiredText context members key ≠ .error .nullCharacter := by
  unfold requiredText
  split
  · split <;> simp [invalid]
  · simp [invalid]

theorem optionalText_ne : optionalText context members key ≠ .error .nullCharacter := by
  unfold optionalText
  split <;> simp [invalid]

theorem textList_ne : textList context members key ≠ .error .nullCharacter := by
  unfold textList
  split
  · simp
  · simp
  · split <;> simp [invalid]
  · simp [invalid]

theorem checkDotted_ne {value : String} :
    checkDotted context key value ≠ .error .nullCharacter := by
  unfold checkDotted
  split <;> simp [invalid]

theorem forM_checkDotted_ne {values : List String} :
    values.forM (checkDotted context key) ≠ .error .nullCharacter := by
  induction values with
  | nil => simp [pure, Except.pure]
  | cons value rest ih =>
    rw [List.forM_eq_forM] at ih ⊢
    simp [bind_eq_error, checkDotted_ne, ih]

theorem requiredMember_ne : requiredMember context members key ≠ .error .nullCharacter := by
  unfold requiredMember
  split <;> simp [invalid]

theorem optionProperty_ne {given : Json} :
    optionProperty context given ≠ .error .nullCharacter := by
  unfold optionProperty
  split
  · split <;> simp [invalid]
  · simp [invalid]

theorem optionFlag_ne {property : String} :
    optionFlag context property members ≠ .error .nullCharacter := by
  simp only [optionFlag]
  split
  · split <;> simp [invalid]
  · simp [invalid]

theorem optionType_ne {value : Json} : optionType context value ≠ .error .nullCharacter := by
  simp only [optionType]
  split <;> simp

theorem optionHelp_ne : optionHelp context members ≠ .error .nullCharacter := by
  unfold optionHelp
  split <;> simp [invalid]

theorem optionValues_ne : optionValues context members ≠ .error .nullCharacter := by
  unfold optionValues
  split <;> simp [invalid]

theorem determineRoot_ne {d : Definition} :
    determineRoot context members d ≠ .error .nullCharacter := by
  unfold determineRoot
  split
  · split <;> simp [invalid]
  · simp [invalid]
  · split
    · simp
    · split <;> simp

theorem requiredMember_ok {value : Json} (ok : requiredMember context members key = .ok value) :
    Json.lookup? members key = some value := by
  unfold requiredMember at ok
  split at ok
  · rename_i found
    cases ok
    exact found
  · cases ok

theorem optionHasNull_of_readOption {value : Json}
    (stopped : readOption context value = .error .nullCharacter) : OptionHasNull value := by
  cases value with
  | object members =>
    simp only [readOption, bind_eq_error, requiredMember_ne, optionProperty_ne, optionType_ne,
      optionFlag_ne, optionHelp_ne, false_or, and_false, exists_false, or_false, pure, Except.pure,
      reduceCtorEq] at stopped
    obtain ⟨given, _, written, _, value, required, property, named, type, typed, flag, flagged,
      here | ⟨_, _, here⟩⟩ := stopped
    · exact ⟨members, "default", value, rfl, .inl rfl, requiredMember_ok required,
        hasNull_of_expression here⟩
    · obtain ⟨given, found, null⟩ := hasNull_of_optionConstraint here
      exact ⟨members, "constraint", given, rfl, .inr rfl, found, null⟩
  | _ => cases stopped

-- The options before the one that stops the reading do not matter.
theorem optionHasNull_of_readOptions {values : List Json} {seen : List OptionDefinition}
    {number : Nat} (stopped : readOptions context seen number values = .error .nullCharacter) :
    ∃ value ∈ values, OptionHasNull value := by
  induction values generalizing seen number with
  | nil => cases stopped
  | cons value rest ih =>
    simp only [readOptions, bind_eq_error] at stopped
    rcases stopped with here | ⟨option, _, later⟩
    · exact ⟨value, List.mem_cons_self, optionHasNull_of_readOption here⟩
    · split at later
      · cases later
      · split at later
        · cases later
        · obtain ⟨value, member, null⟩ := ih later
          exact ⟨value, List.mem_cons_of_mem _ member, null⟩

theorem optionValues_ok {values : List Json} (ok : optionValues context members = .ok values)
    (filled : values ≠ []) : Json.lookup? members "options" = some (.array values) := by
  unfold optionValues at ok
  split at ok
  · rename_i given
    cases ok
    cases found : Json.lookup? members "options" with
    | none => simp [found, filled.symm] at given
    | some value => simpa [found] using given
  · cases ok

/-- A null character stops the reading of a definition only in one of its options. -/
theorem optionHasNull_of_ofMembers {source : Option String}
    (stopped : ofMembers source members = .error .nullCharacter) :
    ∃ values, Json.lookup? members "options" = some (.array values) ∧
      ∃ value ∈ values, OptionHasNull value := by
  simp only [ofMembers, bind_eq_error, requiredText_ne, ensure_ne, optionalText_ne, textList_ne,
    checkDotted_ne, forM_checkDotted_ne, optionValues_ne, determineRoot_ne, false_or, and_false,
    or_false, exists_false, pure, Except.pure, reduceCtorEq] at stopped
  obtain ⟨_, _, _, _, _, _, _, _, _, _, _, _, _, _, _, _, _, _, _, _, _, _, _, _, _, _, _, _,
    values, given, here⟩ := stopped
  obtain ⟨value, member, null⟩ := optionHasNull_of_readOptions here
  exact ⟨values, optionValues_ok given (List.ne_nil_of_mem member), value, member, null⟩

end OptionProtocol.Definition
