import OptionProtocol.Emission.Member
import OptionProtocol.Proofs.Definition.WellFormed
import OptionProtocol.Proofs.Name.Sanitizing

/-! The attributes of options. Each comes from counting up to names that nothing else takes up,
so no option takes up a name of another one or of the class, and options that are added later
change nothing. -/

set_option autoImplicit false

namespace OptionProtocol

namespace Member

open Sanitizer (numbered CountsTo toList_numbered injective_of_numeral)

/-- The names that a numbered attribute takes up, by the number. -/
def forms (base : String) : List (Nat → String) := [
  numbered base, fun n => "_" ++ numbered base n, fun n => Text.uppered (numbered base n),
  fun n => "get_default_" ++ numbered base n, fun n => "get_" ++ numbered base n,
  fun n => "set_" ++ numbered base n, fun n => numbered base n ++ "_tip_text"]

theorem ofAttribute_numbered (base : String) (n : Nat) :
    ofAttribute (numbered base n) = (forms base).map fun form => form n := rfl

-- Capital letters leave the number behind the name as it is.
theorem toList_uppered_numbered (base : String) (n : Nat) :
    (Text.uppered (numbered base n)).toList =
      Text.upper base.toList ++ Sanitizer.numeral n := by
  rw [Text.uppered, String.toList_ofList, toList_numbered, Text.upper, List.flatMap_append]
  congr 1
  exact Text.upper_digits fun c => Sanitizer.isDigit_of_mem_numeral

theorem forms_injective (base : String) : ∀ form ∈ forms base, Function.Injective form := by
  simp only [forms, List.forall_mem_cons]
  refine ⟨?_, ?_, ?_, ?_, ?_, ?_, ?_, by simp⟩
  · exact Sanitizer.numbered_injective base
  · exact injective_of_numeral ("_".toList ++ base.toList) [] (by simp [toList_numbered])
  · exact injective_of_numeral (Text.upper base.toList) [] (by simp [toList_uppered_numbered])
  · exact injective_of_numeral ("get_default_".toList ++ base.toList) []
      (by simp [toList_numbered])
  · exact injective_of_numeral ("get_".toList ++ base.toList) [] (by simp [toList_numbered])
  · exact injective_of_numeral ("set_".toList ++ base.toList) [] (by simp [toList_numbered])
  · exact injective_of_numeral base.toList "_tip_text".toList (by simp [toList_numbered])

theorem isFree_iff {claimed : List String} {name : String} :
    isFree claimed name = true ↔ (ofAttribute name).Disjoint claimed := by
  simp [isFree, List.Disjoint]

theorem countsTo_firstFree (claimed : List String) (base : String) :
    CountsTo (fun name => (ofAttribute name).Disjoint claimed) base 0 (firstFree claimed base) := by
  obtain ⟨n, small, free⟩ := Sanitizer.exists_free claimed (forms_injective base)
  have here : isFree claimed (numbered base n) = true := by
    rw [isFree_iff, ofAttribute_numbered]
    intro member taken held
    obtain ⟨form, inside, rfl⟩ := List.mem_map.mp taken
    exact free form inside held
  have found := Sanitizer.countsTo_find? (isFree claimed) base base ⟨n, small, here⟩
  simp only [isFree_iff] at found
  exact found

/-- The attributes that properties get: the sanitizer answers, and counting up from the answer
comes to a name that takes up nothing claimed. -/
inductive Assigns : Sanitizer → List String → List String → List String → Prop where
  | nil {s : Sanitizer} {claimed : List String} : Assigns s claimed [] []
  | cons {s after : Sanitizer} {claimed rest more : List String} {property base chosen : String}
      (answered : s.Answers property .snake "_" base after)
      (counted : CountsTo (fun name => (ofAttribute name).Disjoint claimed) base 0 chosen)
      (later : Assigns (after.addUsed chosen) (claimed ++ ofAttribute chosen) rest more) :
      Assigns s claimed (property :: rest) (chosen :: more)

theorem assigns_assign (s : Sanitizer) (claimed properties : List String) :
    Assigns s claimed properties (assign s claimed properties) := by
  induction properties generalizing s claimed with
  | nil => exact .nil
  | cons property rest ih =>
    exact .cons (s.answers_sanitize property .snake "_") (countsTo_firstFree claimed _) (ih _ _)

theorem Assigns.unique {s : Sanitizer} {claimed properties attributes others : List String}
    (assigned : Assigns s claimed properties attributes)
    (again : Assigns s claimed properties others) : attributes = others := by
  induction assigned generalizing others with
  | nil =>
    cases again
    rfl
  | cons answered counted _ ih =>
    cases again with
    | cons reanswered recounted later =>
      obtain ⟨rfl, rfl⟩ := answered.unique reanswered
      obtain rfl := counted.unique recounted
      rw [ih later]

/-- The counting ends, and it ends with the attributes that are assigned. -/
theorem assigns_iff {s : Sanitizer} {claimed properties attributes : List String} :
    Assigns s claimed properties attributes ↔ attributes = assign s claimed properties := by
  constructor
  · exact fun assigned => assigned.unique (assigns_assign s claimed properties)
  · rintro rfl
    exact assigns_assign s claimed properties

theorem assign_isPrefix_append (s : Sanitizer) (claimed properties more : List String) :
    assign s claimed properties <+: assign s claimed (properties ++ more) := by
  induction properties generalizing s claimed with
  | nil => exact List.nil_prefix
  | cons property rest ih => exact List.prefix_cons_inj _ |>.mpr (ih _ _)

namespace Assigns

variable {s : Sanitizer} {claimed properties attributes : List String}

theorem length_eq (assigned : Assigns s claimed properties attributes) :
    attributes.length = properties.length := by
  induction assigned with
  | nil => rfl
  | cons _ _ _ ih => rw [List.length_cons, List.length_cons, ih]

theorem disjoint (assigned : Assigns s claimed properties attributes) :
    ∀ name ∈ attributes, (ofAttribute name).Disjoint claimed := by
  induction assigned with
  | nil => simp
  | cons _ counted _ ih =>
    intro name member
    rcases List.mem_cons.mp member with rfl | later
    · exact counted.free
    · exact (List.disjoint_append_right.mp (ih name later)).1

theorem pairwise (assigned : Assigns s claimed properties attributes) :
    attributes.Pairwise fun first second => (ofAttribute first).Disjoint (ofAttribute second) := by
  induction assigned with
  | nil => exact .nil
  | cons _ _ later ih =>
    refine .cons (fun second member => ?_) ih
    exact (List.disjoint_append_right.mp (later.disjoint second member)).2.symm

theorem usable (assigned : Assigns s claimed properties attributes) (ready : s.ForOptions)
    (proper : ∀ property ∈ properties, Definition.isProperty property.toList = true) :
    ∀ name ∈ attributes, Name.IsUsable name := by
  induction assigned with
  | nil => simp
  | cons answered counted _ ih =>
    obtain ⟨here, after⟩ := ready.answers (proper _ List.mem_cons_self) answered
    obtain ⟨n, rfl⟩ := counted.exists_numbered
    intro name member
    rcases List.mem_cons.mp member with rfl | later
    · exact here.numbered n
    · exact ih (after.addUsed _) (fun property inside =>
        proper property (List.mem_cons_of_mem _ inside)) name later

end Assigns

end Member

namespace Definition

open Member

/-- Counting ends with the attributes of the options, one for each of them. They are safe to
use, they take up different names, and they do not depend on options that follow. -/
structure AttributesApart (d : Definition) : Prop where
  assigned : ∀ names, Assigns Name.optionSanitizer ofClass
    (d.options.map OptionDefinition.property) names ↔ names = d.attributes
  length_eq : d.attributes.length = d.options.length
  apart : d.attributes.Pairwise fun first second =>
    (ofAttribute first).Disjoint (ofAttribute second)
  ofClass : ∀ name ∈ d.attributes, (ofAttribute name).Disjoint ofClass
  safe : ∀ name ∈ d.attributes, Name.IsAttribute name
  steady : ∀ more : List OptionDefinition,
    d.attributes <+: ({ d with options := d.options ++ more } : Definition).attributes

theorem WellFormed.attributesApart {d : Definition} (formed : d.WellFormed) :
    d.AttributesApart := by
  have assigned := assigns_assign Name.optionSanitizer ofClass
    (d.options.map OptionDefinition.property)
  have proper : ∀ property ∈ d.options.map OptionDefinition.property,
      isProperty property.toList = true := by
    intro property member
    obtain ⟨option, inside, rfl⟩ := List.mem_map.mp member
    exact (formed.options.each option inside).property
  exact {
    assigned := fun _ => assigns_iff
    length_eq := assigned.length_eq.trans (List.length_map _)
    apart := assigned.pairwise
    ofClass := assigned.disjoint
    safe := fun name member =>
      (assigned.usable Sanitizer.forOptions_optionSanitizer proper name member).isAttribute
    steady := fun more => by
      rw [attributes, attributes, List.map_append]
      exact assign_isPrefix_append _ _ _ _ }

/-- The options of every definition that was read get attributes that are apart. -/
theorem ofJson_attributesApart {source : Option String} {value : Json} {d : Definition}
    {log : List LogRecord} (ok : ofJson source value = .ok (d, log)) : d.AttributesApart := by
  obtain ⟨members, rfl, ok⟩ := ofMembers_of_ofJson ok
  exact (ofMembers_wellFormed ok).attributesApart

/-- Two options that both have a default getter of the same name, and one with the name of a
keyword. -/
def clashingJson : Json := .object [
  ("name", .text "Clashing"), ("author", .text "someone"), ("organization", .text "some lab"),
  ("options", .array (["foo", "defaultFoo", "class"].map fun property =>
    .object [("property", .text property), ("type", .text "int"), ("default", .int 0)]))]

def clashing : Definition where
  name := "Clashing"
  author := "someone"
  organization := "some lab"
  isRoot := true
  options := [("foo", "foo"), ("defaultFoo", "default-foo"), ("class", "class")].map
    fun (property, flag) =>
      { property, flag, type := ⟨.scalar .integer, false⟩, default := "0", flagDerived := true }

theorem attributesApart_clashing :
    (∃ log, ofJson none clashingJson = .ok (clashing, log)) ∧
      clashing.attributes = ["foo", "default_foo1", "class_"] ∧ clashing.AttributesApart := by
  have read : ofJson none clashingJson =
      .ok (clashing, [⟨.warning, orphanMessage "definition 'Clashing': "⟩]) := by
    with_unfolding_all rfl
  exact ⟨⟨_, read⟩, by with_unfolding_all rfl, ofJson_attributesApart read⟩

end Definition

end OptionProtocol
