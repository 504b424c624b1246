import OptionProtocol.Emission.Python
import OptionProtocol.Proofs.Emission.Attributes
import OptionProtocol.Proofs.Emission.Tidying

/-! Expressions in generated code. The expressions of an option stand at the ends of lines of the
module that is written for it, and are in the formatted code as far as there is nothing in them to
clean up. -/

set_option autoImplicit false

namespace OptionProtocol

open Formatting (IsTidy tidied)

/-- The statements of generated code that hold the expressions of the option. -/
def OptionDefinition.statements (option : OptionDefinition) : List String :=
  ("return " ++ option.default) ::
    (option.constraint.map fun text => "if not (" ++ text ++ "):").toList

namespace ModuleText

variable {m : ModuleText} {option : OptionText}

theorem default_mem_lines (member : option ∈ m.options) :
    "        " ++ ("return " ++ option.default) ∈ m.lines := by
  have own : "        return " ++ option.default ∈ m.accessors option := by
    simp [accessors, defaultGetter]
  rw [← String.append_assoc]
  exact List.mem_append_right _ (List.mem_flatMap.mpr ⟨option, member, own⟩)

theorem constraint_mem_lines (member : option ∈ m.options) {constraint : String}
    (given : option.constraint = some constraint) :
    "        " ++ ("if not (" ++ constraint ++ "):") ∈ m.lines := by
  have own : "        if not (" ++ constraint ++ "):" ∈ m.accessors option := by
    simp [accessors, setter, given]
  rw [← String.append_assoc, ← String.append_assoc]
  exact List.mem_append_right _ (List.mem_flatMap.mpr ⟨option, member, own⟩)

theorem toList_text (m : ModuleText) :
    m.text.toList = Filter.unlines (m.lines.map String.toList ++ [[]]) := by
  have some : m.lines.map String.toList ≠ [] := by simp [lines, classHead]
  rw [Filter.unlines_append some (by simp), text, String.toList_append, String.toList_intercalate]
  rfl

end ModuleText

namespace Python

variable {d : Definition} {option : OptionDefinition}

theorem exists_named (apart : d.AttributesApart) (member : option ∈ d.options) :
    ∃ name, (option, name) ∈ namedOptions d := by
  obtain ⟨place, inside, rfl⟩ := List.getElem_of_mem member
  have named : place < d.attributes.length := apart.length_eq ▸ inside
  refine ⟨d.attributes[place], List.mem_iff_getElem.mpr ⟨place, ?_, ?_⟩⟩
  · simp [namedOptions, inside, named]
  · simp [namedOptions]

/-- The statements of an option end lines of the module. -/
theorem statement_mem_lines (apart : d.AttributesApart) (member : option ∈ d.options)
    {statement : String} (own : statement ∈ option.statements) (c : Configuration) (style : Style)
    (codec : String) (bases : Bases) :
    "        " ++ statement ∈ (moduleText c style codec bases d).lines := by
  obtain ⟨name, named⟩ := exists_named apart member
  have inside : optionText option name ∈ (moduleText c style codec bases d).options :=
    List.mem_map.mpr ⟨_, named, rfl⟩
  obtain rfl | own := List.mem_cons.mp own
  · exact ModuleText.default_mem_lines inside
  · obtain ⟨constraint, given, rfl⟩ := Option.map_eq_some_iff.mp (Option.mem_toList.mp own)
    exact ModuleText.constraint_mem_lines inside given

end Python

namespace Definition

theorem IsExpressionText.isTrimmed {text : String} (expression : IsExpressionText text) :
    Text.IsTrimmed Text.isBlank text.toList := by
  have same := congrArg String.toList expression.trimmed
  rw [Text.trimmed, Text.over, String.toList_ofList] at same
  rw [← same]
  exact Text.isTrimmed_trim _ _

end Definition

theorem OptionDefinition.WellFormed.isTrimmed {option : OptionDefinition}
    (formed : option.WellFormed) {statement : String} (own : statement ∈ option.statements) :
    statement.toList ≠ [] ∧ Text.IsTrimmed Text.isBlank statement.toList := by
  obtain rfl | own := List.mem_cons.mp own
  · have filled : option.default.toList ≠ [] := by simpa using formed.default.filled
    refine ⟨by simp, ?_, fun c last => formed.default.isTrimmed.last c ?_⟩
    · rw [String.toList_append]
      rintro c ⟨⟩
      decide
    · rwa [String.toList_append, List.getLast?_append_of_ne_nil _ filled] at last
  · obtain ⟨constraint, given, rfl⟩ := Option.map_eq_some_iff.mp (Option.mem_toList.mp own)
    refine ⟨by simp, ?_, ?_⟩
    · rw [String.toList_append, String.toList_append]
      rintro c ⟨⟩
      decide
    · rw [String.toList_append, List.getLast?_append_of_ne_nil _ (by simp)]
      rintro c ⟨⟩
      decide

namespace Python

variable {d : Definition}

theorem emit_eq_ok_iff {c : Configuration} {style : Style} {code : String} :
    emit c style d = .ok code ↔ ∃ codec bases, codecImport c.codecModule = .ok codec ∧
      Bases.ofDefinition d = .ok bases ∧ code = (moduleText c style codec bases d).text := by
  unfold emit
  constructor
  · intro emitted
    split at emitted
    · cases emitted
    · rename_i codec named
      split at emitted
      · cases emitted
      · rename_i bases based
        exact ⟨codec, bases, named, based, (Except.ok.inj emitted).symm⟩
  · rintro ⟨codec, bases, named, based, rfl⟩
    rw [named, based]

theorem emit_of_generate {c : Configuration} {style : Style} {generated : GeneratedCode}
    (done : ((generator c style).generate d).result = .ok (.done generated)) :
    ∃ code, emit c style d = .ok code ∧ generated.code = formatCode code := by
  have emits : (generator c style).emit d = emit c style d := rfl
  unfold Generator.generate at done
  rw [emits] at done
  cases emitted : emit c style d with
  | ok code =>
    simp only [emitted, Except.ok.injEq, Generation.done.injEq] at done
    exact ⟨code, rfl, by rw [← done]⟩
  | error failure =>
    simp only [emitted] at done
    split at done <;> cases done

theorem generate_of_emit {c : Configuration} {style : Style} {code : String}
    (emitted : emit c style d = .ok code) : ∃ generated : GeneratedCode,
      ((generator c style).generate d).result = .ok (.done generated) ∧
        generated.code = formatCode code := by
  have emits : (generator c style).emit d = .ok code := emitted
  rw [Generator.generate, emits]
  exact ⟨_, rfl, rfl⟩

theorem generate_done {c : Configuration} {style : Style} {generated : GeneratedCode}
    (done : ((generator c style).generate d).result = .ok (.done generated)) :
    ∃ codec bases, generated.code = formatCode (moduleText c style codec bases d).text := by
  obtain ⟨code, emitted, formatted⟩ := emit_of_generate done
  obtain ⟨codec, bases, _, _, rfl⟩ := emit_eq_ok_iff.mp emitted
  exact ⟨codec, bases, formatted⟩

/-- Every expression of every option of a definition that was read is in the code generated for it,
in the statement that it is for: with its lines cleaned up, so just as it was given where there is
nothing to clean up. -/
theorem generate_keeps_expressions {source : Option String} {value : Json} {log : List LogRecord}
    (accepted : Definition.ofJson source value = .ok (d, log)) {c : Configuration} {style : Style}
    {generated : GeneratedCode}
    (done : ((generator c style).generate d).result = .ok (.done generated)) :
    ∀ option ∈ d.options, ∀ statement ∈ option.statements,
      tidied statement.toList <:+: generated.code.toList ∧
        (statement.toList <:+: generated.code.toList ↔ IsTidy statement.toList) := by
  obtain ⟨members, rfl, accepted⟩ := Definition.ofMembers_of_ofJson accepted
  have formed := Definition.ofMembers_wellFormed accepted
  obtain ⟨codec, bases, code⟩ := generate_done done
  intro option member statement own
  obtain ⟨filled, trimmed⟩ := (formed.options.each option member).isTrimmed own
  have line := statement_mem_lines formed.attributesApart member own c style codec bases
  obtain ⟨before, after, lines⟩ := List.append_of_mem line
  have single : '\n' ∉ "        ".toList := by decide
  have whole : generated.code.toList =
      Formatting.format (Filter.unlines (before.map String.toList ++
        ("        ".toList ++ statement.toList) :: (after.map String.toList ++ [[]]))) := by
    rw [code, formatCode, Text.over, String.toList_ofList, ModuleText.toList_text, lines]
    simp
  rw [whole]
  exact ⟨Formatting.tidied_isInfix_format _ _ single trimmed filled,
    Formatting.isInfix_format_iff _ _ single trimmed filled⟩

/-- An option with a default on two lines, of which the first one ends with a blank. -/
def spreadJson : Json := .object [
  ("name", .text "Tool"), ("author", .text "someone"), ("organization", .text "some lab"),
  ("options", .array [.object [
    ("property", .text "total"), ("type", .text "int"), ("default", .text "(1 + \n2)"),
    ("constraint", .text "value > 0")]])]

def spread : Definition where
  name := "Tool"
  author := "someone"
  organization := "some lab"
  isRoot := true
  options := [
    { property := "total", type := ⟨.scalar .integer, false⟩, flag := "total",
      default := "(1 + \n2)", constraint := some "value > 0", flagDerived := true }]

theorem ofJson_spreadJson : Definition.ofJson none spreadJson =
    .ok (spread, [⟨.warning, Definition.orphanMessage "definition 'Tool': "⟩]) := by
  with_unfolding_all rfl

theorem exists_generated_spread :
    ∃ generated, ((generator {} {}).generate spread).result = .ok (.done generated) :=
  ⟨_, rfl⟩

-- The sum is still there, without the blank.
theorem generate_keeps_expressions_spread :
    (∃ log, Definition.ofJson none spreadJson = .ok (spread, log)) ∧
      ∃ generated, ((generator {} {}).generate spread).result = .ok (.done generated) ∧
        "return (1 +\n2)".toList <:+: generated.code.toList ∧
        "if not (value > 0):".toList <:+: generated.code.toList := by
  obtain ⟨generated, done⟩ := exists_generated_spread
  have kept := generate_keeps_expressions ofJson_spreadJson done _ List.mem_cons_self
  have sum := (kept "return (1 + \n2)" (by decide)).1
  have guarded := (kept "if not (value > 0):" (by decide)).1
  exact ⟨⟨_, ofJson_spreadJson⟩, generated, done, sum, guarded⟩

theorem spread_default_not_verbatim :
    (∃ log, Definition.ofJson none spreadJson = .ok (spread, log)) ∧
      ∃ generated, ((generator {} {}).generate spread).result = .ok (.done generated) ∧
        ∃ option ∈ spread.options,
          ¬("return " ++ option.default).toList <:+: generated.code.toList := by
  obtain ⟨generated, done⟩ := exists_generated_spread
  obtain ⟨codec, bases, code⟩ := generate_done done
  refine ⟨⟨_, ofJson_spreadJson⟩, generated, done, _, List.mem_cons_self, fun inside => ?_⟩
  have formatted : generated.code.toList =
      Formatting.format (moduleText {} {} codec bases spread).text.toList := by
    rw [code, formatCode, Text.over, String.toList_ofList]
  rw [formatted] at inside
  have tidy := (Formatting.isTidy_format _).mono inside
  exact tidy.ends ' ' (by decide) (by decide) ⟨"return (1 +".toList, "2)".toList, by decide⟩

end Python

end OptionProtocol
