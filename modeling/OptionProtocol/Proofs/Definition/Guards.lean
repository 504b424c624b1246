import OptionProtocol.Proofs.Emission.Expressions
import OptionProtocol.Proofs.Expression.Negation

/-! Guards of generated setters. A setter tests the negation of the constraint, in brackets. The
constraint was read as an expression of its own, so the guard is one unless the constraint ends in a
comment, which takes the closing bracket, or nests brackets as deep as they may be nested. -/

set_option autoImplicit false

namespace OptionProtocol.Definition

open Expression (source? lex EndsInComment deepest greatestDepth)

/-- The condition that a setter tests for a constraint. -/
def guard (constraint : String) : String := "not (" ++ constraint ++ ")"

variable {constraint : String}

theorem guard_isTrimmed (constraint : String) :
    Text.IsTrimmed Text.isBlank (guard constraint).toList := by
  refine ⟨?_, fun c last => ?_⟩
  · rw [guard, String.toList_append, String.toList_append]
    rintro c ⟨⟩
    decide
  · rw [guard, String.toList_append, List.getLast?_append] at last
    cases last
    decide

theorem guard_trimmed (constraint : String) :
    Text.trimmed (guard constraint) = guard constraint := by
  rw [Text.trimmed, Text.over, (guard_isTrimmed constraint).trim_eq, String.ofList_toList]

theorem guard_not_isAllBlank (constraint : String) :
    Text.isAllBlank (guard constraint) = false := by
  have first : 'n' ∈ (guard constraint).toList := by simp [guard]
  rw [Text.isAllBlank, List.all_eq_false]
  exact ⟨'n', first, by decide⟩

theorem isReadable_guard (readable : Expression.isReadable constraint = true) :
    Expression.isReadable (guard constraint) = true := by
  simpa [Expression.isReadable, guard] using readable

/-- A guard is read as it is, or refused as a whole. -/
theorem expression_guard (readable : Expression.isReadable constraint = true)
    (context key : String) :
    expression context key (.text (guard constraint)) =
      if Expression.isValid (guard constraint) then .ok (guard constraint)
      else invalid context (.invalidExpression key (guard constraint)) := by
  simp only [expression, expressionText?, guard_not_isAllBlank, isReadable_guard readable,
    guard_trimmed, Bool.not_true, Bool.false_eq_true, if_false]
  cases Expression.isValid (guard constraint) <;> rfl

/-- The guard of an accepted option is accepted as an expression just when its constraint neither
ends in a comment nor has brackets in it that are nested as deep as they may be. -/
theorem ofJson_guard_iff {source : Option String} {value : Json} {d : Definition}
    {log : List LogRecord} (accepted : ofJson source value = .ok (d, log)) :
    ∀ option ∈ d.options, ∀ constraint ∈ option.constraint,
      (∀ c style codec bases, "        if " ++ guard constraint ++ ":" ∈
        (Python.moduleText c style codec bases d).lines) ∧
      ∃ s lexemes, source? constraint = some s ∧ lex s = some lexemes ∧
        ∀ context key,
          expression context key (.text (guard constraint)) =
            if ¬EndsInComment [] s ∧ deepest 0 lexemes < greatestDepth then .ok (guard constraint)
            else invalid context (.invalidExpression key (guard constraint)) := by
  obtain ⟨members, rfl, accepted⟩ := ofMembers_of_ofJson accepted
  have formed := ofMembers_wellFormed accepted
  intro option member constraint given
  have expression := (formed.options.each option member).constraint constraint given
  constructor
  · intro c style codec bases
    have own : "if not (" ++ constraint ++ "):" ∈ option.statements := by
      simp [OptionDefinition.statements, Option.mem_def.mp given]
    have line : "        if " ++ guard constraint ++ ":" =
        "        " ++ ("if not (" ++ constraint ++ "):") := by
      rw [← String.toList_inj]
      simp [guard]
    rw [line]
    exact Python.statement_mem_lines formed.attributesApart member own c style codec bases
  · obtain ⟨s, lexemes, text, reads, same⟩ :=
      Expression.isValid_negated_iff expression.valid expression.isTrimmed
    refine ⟨s, lexemes, text, reads, fun context key => ?_⟩
    rw [expression_guard expression.readable]
    simp only [guard, same]

/-- An option with a comment inside the brackets of its constraint. -/
def guardedJson : Json := .object [
  ("name", .text "Tool"), ("author", .text "someone"), ("organization", .text "some lab"),
  ("options", .array [.object [
    ("property", .text "total"), ("type", .text "int"), ("default", .text "1"),
    ("constraint", .text "(0 < value # positive\n and value < 10)")]])]

def guarded : Definition where
  name := "Tool"
  author := "someone"
  organization := "some lab"
  isRoot := true
  options := [
    { property := "total", type := ⟨.scalar .integer, false⟩, flag := "total",
      default := "1", constraint := some "(0 < value # positive\n and value < 10)",
      flagDerived := true }]

theorem ofJson_guardedJson : ofJson none guardedJson =
    .ok (guarded, [⟨.warning, orphanMessage "definition 'Tool': "⟩]) := by
  rw [← toOption_eq_some]
  decide +kernel

theorem ofJson_guard_iff_guarded :
    (∃ log, ofJson none guardedJson = .ok (guarded, log)) ∧
      expression "" "constraint" (.text (guard "(0 < value # positive\n and value < 10)")) =
        .ok "not ((0 < value # positive\n and value < 10))" := by
  refine ⟨⟨_, ofJson_guardedJson⟩, ?_⟩
  obtain ⟨-, s, lexemes, text, reads, same⟩ :=
    ofJson_guard_iff ofJson_guardedJson _ List.mem_cons_self _ rfl
  have whole : source? "(0 < value # positive\n and value < 10)" =
      some "(0 < value # positive\n and value < 10)".toList := by
    decide
  cases text.symm.trans whole
  have depth : (lex "(0 < value # positive\n and value < 10)".toList).map (deepest 0) = some 1 := by
    decide
  have last : ¬EndsInComment [] "(0 < value # positive\n and value < 10)".toList := by
    decide
  rw [reads] at depth
  have shallow : deepest 0 lexemes < greatestDepth := by
    rw [Option.some.inj depth]
    decide
  rw [same, if_pos ⟨last, shallow⟩]
  rfl

/-- An option with a comment behind its constraint. -/
def commentedJson : Json := .object [
  ("name", .text "Tool"), ("author", .text "someone"), ("organization", .text "some lab"),
  ("options", .array [.object [
    ("property", .text "total"), ("type", .text "int"), ("default", .text "1"),
    ("constraint", .text "value > 0 # positive")]])]

def commented : Definition where
  name := "Tool"
  author := "someone"
  organization := "some lab"
  isRoot := true
  options := [
    { property := "total", type := ⟨.scalar .integer, false⟩, flag := "total",
      default := "1", constraint := some "value > 0 # positive", flagDerived := true }]

-- The comment goes on to the end of the line, over the closing bracket.
theorem guard_refused_commented :
    (∃ log, ofJson none commentedJson = .ok (commented, log)) ∧
      expression "" "constraint" (.text (guard "value > 0 # positive")) =
        invalid "" (.invalidExpression "constraint" "not (value > 0 # positive)") := by
  constructor
  · refine ⟨[⟨.warning, orphanMessage "definition 'Tool': "⟩], ?_⟩
    rw [← toOption_eq_some]
    decide +kernel
  · have refused : Expression.isValid (guard "value > 0 # positive") = false := by decide
    rw [expression_guard (by decide), refused]
    rfl

end OptionProtocol.Definition
