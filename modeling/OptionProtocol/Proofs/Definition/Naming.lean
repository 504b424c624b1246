import OptionProtocol.Expression.Lexeme
import OptionProtocol.Proofs.Definition.WellFormed
import OptionProtocol.Proofs.Name.Snake

/-! The names in a class definition that was read. Texts that stand for modules and classes
are made of identifiers, and options are called by words of plain letters. -/

set_option autoImplicit false

namespace OptionProtocol

def IsIdentifier (name : String) : Prop := Text.isIdentifier name.toList = true

namespace Definition

/-- The class and all parts of the dotted names are as they have to be. An empty text stands
for no name. -/
structure NamesAre (lawful : String → Prop) (d : Definition) : Prop where
  className : lawful d.className
  package : d.package ≠ "" → ∀ part ∈ Name.parts d.package, lawful part
  superclass : d.superclass ≠ "" → ∀ part ∈ Name.parts d.superclass, lawful part
  implement : ∀ name ∈ d.implement, name ≠ "" → ∀ part ∈ Name.parts name, lawful part

/-- A small letter followed by letters, digits and underscores. -/
def IsPropertyName (property : String) : Prop :=
  ∃ c rest, property.toList = c :: rest ∧ c.isLower = true ∧ ∀ d ∈ rest, Name.isWordChar d = true

structure NamesLegal (d : Definition) : Prop where
  names : d.NamesAre IsIdentifier
  properties : ∀ option ∈ d.options,
    option.property.toList.getLast? ≠ some '\n' → IsPropertyName option.property

variable {context key name : String}

theorem ensure_eq_ok {holds : Bool} {cause : DefinitionCause} {u : Unit} :
    ensure holds context cause = .ok u ↔ holds = true := by
  cases holds <;> simp [ensure, invalid]

theorem checkDotted_eq_ok {u : Unit} :
    checkDotted context key name = .ok u ↔
      (name ≠ "" → ∀ part ∈ Name.parts name, IsIdentifier part) := by
  have parts : Name.isDotted name = true ↔ ∀ part ∈ Name.parts name, IsIdentifier part :=
    List.all_eq_true
  unfold checkDotted
  split
  · rename_i legal
    simpa [← parts, or_iff_not_imp_left] using legal
  · rename_i illegal
    simpa [invalid, ← parts, not_or] using illegal

/-- A check of a list passes when it passes for each member. -/
theorem forM_eq_ok {α : Type} {check : α → Except DefinitionFault Unit} {list : List α} :
    list.forM check = .ok () ↔ ∀ a ∈ list, check a = .ok () := by
  induction list with
  | nil => simp [pure, Except.pure]
  | cons a rest ih =>
    change (check a >>= fun _ => rest.forM check) = .ok () ↔ _
    rw [bind_eq_ok, List.forall_mem_cons, ← ih]
    constructor
    · rintro ⟨_, first, others⟩
      exact ⟨first, others⟩
    · rintro ⟨first, others⟩
      exact ⟨(), first, others⟩

-- The end of the pattern of properties lets a last line end pass.
theorem isPropertyName_of_isProperty {property : String}
    (proper : isProperty property.toList = true)
    (plain : property.toList.getLast? ≠ some '\n') : IsPropertyName property := by
  cases chars : property.toList with
  | nil => simp [chars, isProperty] at proper
  | cons c rest =>
    have whole : rest.getLast? ≠ some '\n' := by
      intro last
      simp [chars, List.getLast?_cons, last] at plain
    simp only [chars, isProperty, if_neg whole, Bool.and_eq_true, List.all_eq_true] at proper
    exact ⟨c, rest, chars, proper⟩

theorem ofMembers_names {source : Option String} {members : Members} {d : Definition}
    {log : List LogRecord} (ok : ofMembers source members = .ok (d, log)) :
    d.NamesAre IsIdentifier := by
  simp only [ofMembers, bind_eq_ok] at ok
  obtain ⟨_, _, _, _, _, _, _, _, _, _, _, _, _, _, _, _, _, _, _, _, _, className, _, package,
    _, superclass, _, implement, _, _, _, _, ⟨_, _⟩, _, made⟩ := ok
  cases made
  exact {
    className := ensure_eq_ok.mp className
    package := checkDotted_eq_ok.mp package
    superclass := checkDotted_eq_ok.mp superclass
    implement := fun name member => checkDotted_eq_ok.mp (forM_eq_ok.mp implement name member) }

/-- In every definition that is read, modules and classes are named by identifiers, and a
property with no line end behind it is a word. -/
theorem ofJson_namesLegal {source : Option String} {value : Json} {d : Definition}
    {log : List LogRecord} (ok : ofJson source value = .ok (d, log)) : d.NamesLegal := by
  obtain ⟨members, rfl, ok⟩ := ofMembers_of_ofJson ok
  exact {
    names := ofMembers_names ok
    properties := fun option member =>
      isPropertyName_of_isProperty ((ofMembers_wellFormed ok).options.each option member).property }

/-- A class in a package, with dotted bases and blanks around some of its names. -/
def packagedJson : Json := .object [
  ("name", .text "Tool"), ("author", .text "someone"), ("organization", .text "some lab"),
  ("package", .text " lib.größe\t"), ("suffix", .text "_2"), ("superclass", .text "lib.Base"),
  ("implement", .array [.text " lib.Part ", .text "OptionHandler"]),
  ("options", .array [.object [
    ("property", .text "maxDepth_2"), ("type", .text "int"), ("default", .int 0)]])]

def packaged : Definition where
  name := "Tool"
  author := "someone"
  organization := "some lab"
  package := "lib.größe"
  nameSuffix := "_2"
  superclass := "lib.Base"
  implement := ["lib.Part", "OptionHandler"]
  isRoot := true
  options := [
    { property := "maxDepth_2", type := ⟨.scalar .integer, false⟩, flag := "max-depth_2",
      default := "0", flagDerived := true }]

theorem ofJson_namesLegal_packaged :
    ofJson none packagedJson = .ok (packaged, []) ∧ packaged.NamesLegal := by
  have read : ofJson none packagedJson = .ok (packaged, []) := by with_unfolding_all rfl
  exact ⟨read, ofJson_namesLegal read⟩

/-- A class with the name of a keyword, an empty capability, and a property that ends with its
line. -/
def keywordJson : Json := .object [
  ("name", .text "class"), ("author", .text "someone"), ("organization", .text "some lab"),
  ("implement", .array [.text ""]),
  ("options", .array [.object [("property", .text "a\n"), ("flag", .text "a"),
    ("type", .text "int"), ("default", .int 0)]])]

def keywordNamed : Definition where
  name := "class"
  author := "someone"
  organization := "some lab"
  implement := [""]
  isRoot := true
  options := [
    { property := "a\n", type := ⟨.scalar .integer, false⟩, flag := "a", default := "0" }]

/-- Names are not told apart from keywords, an empty capability stands for none, and the line
end behind a property goes unseen. -/
theorem not_strictNames_keyword :
    (∃ log, ofJson none keywordJson = .ok (keywordNamed, log)) ∧
      ¬keywordNamed.NamesAre (fun name => IsIdentifier name ∧ name ∉ Expression.keywords) ∧
      "" ∈ keywordNamed.implement ∧
      ∃ option ∈ keywordNamed.options, ¬IsPropertyName option.property := by
  refine ⟨⟨[⟨.warning, orphanMessage "definition 'class': "⟩], by with_unfolding_all rfl⟩,
    fun strict => strict.className.2 (by decide), by decide, _, List.mem_singleton_self _, ?_⟩
  rintro ⟨c, rest, chars, _, words⟩
  obtain ⟨rfl, rfl⟩ : c = 'a' ∧ rest = ['\n'] := by simpa [eq_comm] using chars
  exact absurd (words '\n' (List.mem_singleton_self _)) (by decide)

end Definition

end OptionProtocol
