import OptionProtocol.Definition.Reading
import OptionProtocol.Proofs.Except
import OptionProtocol.Proofs.Table
import OptionProtocol.Proofs.Text.LetterCase
import OptionProtocol.Proofs.Text.Trimming

/-! What holds of every class definition that was read, whatever the members of the object
it was read from. -/

set_option autoImplicit false

namespace OptionProtocol

namespace OptionType

/-- Two or more plain identifiers with dots between them. -/
def IsClassName (name : String) : Prop :=
  ∃ parts : List String, 2 ≤ parts.length ∧
    (∀ part ∈ parts, isAsciiIdentifier part.toList = true) ∧ name = ".".intercalate parts

end OptionType

/-- A kind whose values are no objects, or a class of objects. -/
inductive ElementType.WellFormed : ElementType → Prop where
  | scalar {kind : Kind} (plain : kind ≠ .object) : WellFormed (.scalar kind)
  | object {name : String} (dotted : OptionType.IsClassName name) : WellFormed (.object name)

/-- One element, or an array of elements that are no flags. An array has no arrays in it by
its form. -/
structure OptionType.WellFormed (type : OptionType) : Prop where
  element : type.element.WellFormed
  items : type.isArray = true → type.element.kind ≠ .flag

namespace Definition

/-- An expression with no blanks around it. -/
structure IsExpressionText (text : String) : Prop where
  filled : text ≠ ""
  trimmed : Text.trimmed text = text
  readable : Expression.isReadable text = true
  valid : Expression.isValid text = true

structure IsFlag (flag : String) : Prop where
  filled : flag ≠ ""
  undashed : flag.toList.head? ≠ some '-'
  unbroken : ∀ c ∈ flag.toList, Text.isBlank c = false

end Definition

open Definition in
structure OptionDefinition.WellFormed (option : OptionDefinition) : Prop where
  property : isProperty option.property.toList = true
  type : option.type.WellFormed
  flag : IsFlag option.flag
  default : IsExpressionText option.default
  constraint : ∀ text ∈ option.constraint, IsExpressionText text

namespace Definition

/-- Well-formed options, no two of one property or of one flag. -/
structure OptionsWellFormed (options : List OptionDefinition) : Prop where
  properties : (options.map OptionDefinition.property).Nodup
  flags : (options.map OptionDefinition.flag).Nodup
  each : ∀ option ∈ options, option.WellFormed

structure WellFormed (d : Definition) : Prop where
  options : OptionsWellFormed d.options
  superclass : d.isRoot = false → d.superclass ≠ ""

end Definition

namespace OptionType

theorem isClassName_of {s : List Char} (plain : isClassName s = true) :
    IsClassName (String.ofList s) := by
  simp only [isClassName, Bool.and_eq_true, decide_eq_true_eq, List.all_eq_true] at plain
  refine ⟨(Text.splitOn '.' s).map String.ofList, by simpa using plain.1, ?_, ?_⟩
  · simpa using plain.2
  · apply String.toList_injective
    have joined := Text.joinWith_splitOn '.' s
    simpa [Text.joinWith, Function.comp_def] using joined.symm

theorem plain_of_alias {word : String} {kind : Kind}
    (found : aliases.lookup word = some kind) : kind ≠ .object := by
  have plain : ∀ entry ∈ aliases, entry.2 ≠ Kind.object := by decide
  exact plain (word, kind) (Table.mem_of_lookup found)

-- The recursion is on the text of the items; what it reads is no array.
theorem read_wellFormed {written : List Char} {type : OptionType}
    (ok : read written = .ok type) : type.WellFormed := by
  fun_induction read written generalizing type with
  | case1 => cases ok
  | case2 => cases ok
  | case3 => cases ok
  | case4 => cases ok
  | case5 =>
    rename_i read _ noFlag ih
    cases ok
    exact ⟨(ih read).element, fun _ => noFlag⟩
  | case6 =>
    rename_i found
    cases ok
    exact ⟨.scalar (plain_of_alias found), by simp⟩
  | case7 =>
    rename_i dotted
    cases ok
    exact ⟨.object (isClassName_of dotted), by simp⟩
  | case8 => cases ok

end OptionType

namespace Definition

variable {context property : String} {members : Members}

theorem optionType_wellFormed {value : Json} {type : OptionType}
    (ok : optionType context value = .ok type) : type.WellFormed := by
  cases value with
  | text written =>
    simp only [optionType] at ok
    split at ok
    · rename_i read
      cases ok
      exact OptionType.read_wellFormed read
    · cases ok
  | _ => cases ok

@[simp] theorem isValid_trimmed (text : String) :
    Expression.isValid (Text.trimmed text) = Expression.isValid text := by
  simp [Expression.isValid, Expression.source?, Text.trimmed, Text.over, Text.trim_trim]

theorem isReadable_trimmed {text : String} (readable : Expression.isReadable text = true) :
    Expression.isReadable (Text.trimmed text) = true := by
  simp only [Expression.isReadable, Text.trimmed, Text.over, String.toList_ofList,
    Bool.not_eq_true', List.contains_eq_mem, decide_eq_false_iff_not] at readable ⊢
  exact fun inside => readable (Text.mem_of_mem_trim inside)

theorem isExpressionText_of_expression {key text : String} {value : Json}
    (ok : expression context key value = .ok text) : IsExpressionText text := by
  unfold expression at ok
  split at ok
  · cases ok
  · rename_i source _
    split_ifs at ok with blank unreadable refused
    · cases ok
    · cases ok
    · cases ok
      exact {
        filled := Text.trimmed_ne_empty (by simpa using blank)
        trimmed := Text.trimmed_trimmed source
        readable := isReadable_trimmed (by simpa using unreadable)
        valid := by simpa using refused }

theorem optionConstraint_ok {constraint : Option String}
    (ok : optionConstraint context members = .ok constraint) :
    ∀ text ∈ constraint, IsExpressionText text := by
  unfold optionConstraint at ok
  split at ok
  · cases ok
    simp
  · obtain ⟨text, read, rfl⟩ := map_eq_ok.mp ok
    rintro _ ⟨⟩
    exact isExpressionText_of_expression read

theorem isProperty_of_optionProperty {given : Json}
    (ok : optionProperty context given = .ok property) :
    isProperty property.toList = true := by
  unfold optionProperty at ok
  split at ok
  · split at ok
    · rename_i proper
      cases ok
      exact proper
    · cases ok
  · cases ok

theorem splitFlagWords_cons (c : Char) (rest : List Char) :
    ∃ more, Name.splitFlagWords (c :: rest) = c :: more := by
  cases rest with
  | nil => exact ⟨[], rfl⟩
  | cons d rest =>
    rw [Name.splitFlagWords]
    split <;> exact ⟨_, rfl⟩

theorem deriveFlag_ne_empty (proper : isProperty property.toList = true) :
    Name.deriveFlag property ≠ "" := by
  cases chars : property.toList with
  | nil => simp [chars, isProperty] at proper
  | cons c rest =>
    have small : c.isLower = true := by
      simp only [chars, isProperty, Bool.and_eq_true] at proper
      exact proper.1
    obtain ⟨more, split⟩ := splitFlagWords_cons c rest
    simp [Name.deriveFlag, Text.over, chars, split, Text.lower,
      (Text.IsCommon.of_isLower small).lowerAfter_cons]

-- A flag that is given and not empty is no derived one.
theorem isFlag_of_optionFlag {flag : String} {derived : Bool}
    (proper : isProperty property.toList = true)
    (ok : optionFlag context property members = .ok (flag, derived)) : IsFlag flag := by
  unfold optionFlag at ok
  generalize (Json.lookup? members "flag").getD .null = given at ok
  dsimp only at ok
  split at ok
  · rename_i written chosen
    by_cases refused : written.toList.head? = some '-' ∨ written.toList.any Text.isBlank = true
    · rw [if_pos refused] at ok
      cases ok
    · rw [if_neg refused] at ok
      cases ok
      have filled : flag ≠ "" := by
        split_ifs at chosen with absent
        · cases chosen
          exact deriveFlag_ne_empty proper
        · subst chosen
          simpa using absent
      rw [not_or] at refused
      exact ⟨filled, refused.1, by simpa using refused.2⟩
  · cases ok

theorem readOption_wellFormed {value : Json} {option : OptionDefinition}
    (ok : readOption context value = .ok option) : option.WellFormed := by
  cases value with
  | object members =>
    simp only [readOption, bind_eq_ok] at ok
    obtain ⟨given, _, written, _, value, _, property, named, type, typed, ⟨flag, derived⟩, flagged,
      default, valued, constraint, constrained, help, _, made⟩ := ok
    cases made
    have proper := isProperty_of_optionProperty named
    exact {
      property := proper
      type := optionType_wellFormed typed
      flag := isFlag_of_optionFlag proper flagged
      default := isExpressionText_of_expression valued
      constraint := optionConstraint_ok constrained }
  | _ => cases ok

theorem OptionsWellFormed.append {seen : List OptionDefinition} {option : OptionDefinition}
    (before : OptionsWellFormed seen) (here : option.WellFormed)
    (property : ∀ other ∈ seen, other.property ≠ option.property)
    (flag : ∀ other ∈ seen, other.flag ≠ option.flag) :
    OptionsWellFormed (seen ++ [option]) where
  properties := by
    simpa [List.nodup_append, before.properties] using property
  flags := by
    simpa [List.nodup_append, before.flags] using flag
  each other member := by
    rcases List.mem_append.mp member with old | new
    · exact before.each other old
    · obtain rfl := List.mem_singleton.mp new
      exact here

-- What is seen stays well formed with every option that follows.
theorem readOptions_wellFormed {values : List Json} {seen options : List OptionDefinition}
    {number : Nat} (before : OptionsWellFormed seen)
    (ok : readOptions context seen number values = .ok options) : OptionsWellFormed options := by
  induction values generalizing seen number with
  | nil =>
    cases ok
    exact before
  | cons value rest ih =>
    obtain ⟨option, read, ok⟩ := bind_eq_ok.mp ok
    split_ifs at ok with sameProperty sameFlag
    · cases ok
    · cases ok
    · refine ih (before.append (readOption_wellFormed read) ?_ ?_) ok
      · simpa using sameProperty
      · simpa using sameFlag

theorem superclass_of_determineRoot {d : Definition} {isRoot orphan : Bool}
    (ok : determineRoot context members d = .ok (isRoot, orphan)) (inner : isRoot = false) :
    d.superclass ≠ "" := by
  subst inner
  unfold determineRoot at ok
  split at ok
  · split_ifs at ok with orphaned
    · cases ok
    · cases ok
      simpa using orphaned
  · cases ok
  · split_ifs at ok with capable orphaned
    · cases ok
    · cases ok
    · exact orphaned

theorem ofMembers_wellFormed {source : Option String} {d : Definition} {log : List LogRecord}
    (ok : ofMembers source members = .ok (d, log)) : d.WellFormed := by
  simp only [ofMembers, bind_eq_ok] at ok
  obtain ⟨_, _, _, _, _, _, _, _, _, _, _, _, _, _, _, _, _, _, _, _, _, _, _, _, _, _, _, _,
    values, _, options, read, ⟨isRoot, orphan⟩, root, made⟩ := ok
  cases made
  have none : OptionsWellFormed [] := ⟨by simp, by simp, by simp⟩
  exact {
    options := readOptions_wellFormed none read
    superclass := superclass_of_determineRoot root }

theorem ofMembers_of_ofJson {source : Option String} {value : Json} {d : Definition}
    {log : List LogRecord} (ok : ofJson source value = .ok (d, log)) :
    ∃ members, value = .object members ∧ ofMembers source members = .ok (d, log) := by
  cases value with
  | object members => exact ⟨members, rfl, ok⟩
  | _ => cases ok

/-- Whatever the value and its source, a definition that is read from it is well formed. -/
theorem ofJson_wellFormed {source : Option String} {value : Json} {d : Definition}
    {log : List LogRecord} (ok : ofJson source value = .ok (d, log)) : d.WellFormed := by
  obtain ⟨members, rfl, ok⟩ := ofMembers_of_ofJson ok
  exact ofMembers_wellFormed ok

/-- A class below another one, with blanks around its texts. One flag comes from the property,
and is not the flag of the other option. -/
def learnerJson : Json := .object [
  ("name", .text "Learner"), ("author", .text "someone"), ("organization", .text "some lab"),
  ("superclass", .text " lib.Base "),
  ("options", .array [
    .object [("property", .text "maxDepth"), ("type", .text " list[ int ] "),
      ("default", .text " [2, 3] "), ("constraint", .text "min(value) > 0 ")],
    .object [("property", .text "depth"), ("type", .text "lib.Kernel"), ("flag", .text "max"),
      ("default", .text "lib.Kernel()")]])]

def learner : Definition where
  name := "Learner"
  author := "someone"
  organization := "some lab"
  superclass := "lib.Base"
  options := [
    { property := "maxDepth", type := ⟨.scalar .integer, true⟩, flag := "max-depth",
      default := "[2, 3]", constraint := some "min(value) > 0", flagDerived := true },
    { property := "depth", type := ⟨.object "lib.Kernel", false⟩, flag := "max",
      default := "lib.Kernel()" }]

theorem ofJson_wellFormed_learner :
    ofJson none learnerJson = .ok (learner, []) ∧ learner.WellFormed := by
  have read : ofJson none learnerJson = .ok (learner, []) := by with_unfolding_all rfl
  exact ⟨read, ofJson_wellFormed read⟩

end Definition

end OptionProtocol
