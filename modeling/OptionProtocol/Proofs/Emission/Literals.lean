import OptionProtocol.Proofs.Definition.TypeGrammar
import OptionProtocol.Proofs.Emission.Expressions
import OptionProtocol.Proofs.Emission.Rows
import OptionProtocol.Proofs.Text.Quoted
import OptionProtocol.Template.Basic

/-! Literals in generated code. The flag and the help text of every option stand in the module that
is written for it, in literals that are read as what the definition gives, and the clean-up leaves
the lines with the literals alone. -/

set_option autoImplicit false

namespace OptionProtocol

open OptionProtocol.Filter (lines)
open Formatting (Ended)
open Text (isBlank IsLiteral)

/-! Names in single lines. -/

namespace Name

theorem isBlank_of_isWordChar {c : Char} (word : isWordChar c = true) : isBlank c = false :=
  isBlank_of_isNamePart (by rw [isNamePart, ← isWordChar, word, Bool.true_or])

theorem newline_not_mem {s : List Char} (words : ∀ c ∈ s, isWordChar c = true) : '\n' ∉ s :=
  fun inside => absurd (words _ inside) (by decide)

theorem toUpper_ne_newline {c : Char} (other : c ≠ '\n') : c.toUpper ≠ '\n' := by
  unfold Char.toUpper
  split
  · intro same
    have value := congrArg Char.val same
    grind
  · exact other

namespace IsUsable

variable {name : String}

theorem isWordChar (usable : IsUsable name) : ∀ c ∈ name.toList, isWordChar c = true :=
  fun c member => isWordChar_of_isSmallChar (usable.small.all c member)

theorem newline_not_mem_uppered (usable : IsUsable name) : '\n' ∉ (Text.uppered name).toList := by
  have common (c : Char) (member : c ∈ name.toList) : Text.IsCommon c :=
    isCommon_of_isWordChar (usable.isWordChar c member)
  rw [Text.uppered, String.toList_ofList, Text.upper_common common]
  intro member
  obtain ⟨c, inside, same⟩ := List.mem_map.mp member
  refine toUpper_ne_newline ?_ same
  rintro rfl
  exact newline_not_mem usable.isWordChar inside

end IsUsable

/-- A property is a word, and a line end may follow it. -/
theorem exists_word_of_isProperty {s : List Char} (proper : Definition.isProperty s = true) :
    ∃ word, word ≠ [] ∧ (∀ c ∈ word, isWordChar c = true) ∧ (s = word ∨ s = word ++ ['\n']) := by
  cases s with
  | nil => cases proper
  | cons c rest =>
    simp only [Definition.isProperty, Bool.and_eq_true] at proper
    have first : isWordChar c = true :=
      isWordChar_of_isSmallChar (isSmallChar_of_isLower proper.1)
    have words := List.all_eq_true.mp proper.2
    split at words
    · rename_i ended
      obtain ⟨front, rfl⟩ := List.getLast?_eq_some_iff.mp ended
      rw [List.dropLast_concat] at words
      exact ⟨c :: front, by simp, List.forall_mem_cons.mpr ⟨first, words⟩, .inr rfl⟩
    · exact ⟨c :: rest, by simp, List.forall_mem_cons.mpr ⟨first, words⟩, .inl rfl⟩

end Name

namespace Formatting

/-- A line with a property in it may become two, and neither ends with a blank. -/
theorem ended_lines_property {front tail property : List Char}
    (proper : Definition.isProperty property = true) (single : '\n' ∉ front ∧ '\n' ∉ tail)
    (kept : ∃ c ∈ tail.getLast?, isBlank c = false) :
    Ended (lines (front ++ (property ++ tail))) := by
  obtain ⟨word, filled, words, rfl | rfl⟩ := Name.exists_word_of_isProperty proper
  · refine ended_lines (by simp [single, Name.newline_not_mem words]) ?_
    exact exists_getLast?_append front (exists_getLast?_append property kept)
  · have last : ∃ c ∈ word.getLast?, isBlank c = false :=
      ⟨_, List.getLast?_eq_some_getLast filled,
        Name.isBlank_of_isWordChar (words _ (List.getLast_mem filled))⟩
    rw [List.append_assoc, ← List.append_assoc, List.singleton_append, Filter.lines_append]
    refine Ended.append (ended_lines ?_ (exists_getLast?_append front last))
      (ended_lines single.2 kept)
    simp [single, Name.newline_not_mem words]

end Formatting

namespace ModuleText

variable {m : ModuleText} {option : OptionText}

/-- The method for the help text of an option, up to the statement that returns it. -/
def tipHead (m : ModuleText) (option : OptionText) : List String :=
  ["    def " ++ option.field ++ "_tip_text(self)" ++ m.hint " -> str" ++ ":"] ++
  m.commented
    ["        " ++ quotes ++ "Returns the help string for option " ++ option.property ++ "." ++
       quotes]

theorem isInfix_tipText (m : ModuleText) (option : OptionText) :
    m.tipHead option ++ ["        return " ++ Text.quoted option.tip] <:+: m.tipText option := by
  refine ⟨[""], if m.properties then ["", "    " ++ option.field ++ " = property(get_" ++
    option.field ++ ", set_" ++ option.field ++ ")"] else [], ?_⟩
  simp [tipText, tipHead]

theorem tipText_isInfix_lines (member : option ∈ m.options) : m.tipText option <:+: m.lines := by
  obtain ⟨before, after, options⟩ := List.append_of_mem member
  have own : m.tipText option <:+: m.accessors option := (List.suffix_append _ _).isInfix
  have all : m.accessors option <:+: m.options.flatMap m.accessors := by
    rw [options, List.flatMap_append, List.flatMap_cons]
    exact ⟨_, _, by rw [List.append_assoc]⟩
  exact own.trans (all.trans (List.suffix_append _ _).isInfix)

theorem constant_mem_lines (member : option ∈ m.options) :
    "    " ++ option.constant ++ " = " ++ Text.quoted option.flag ∈ m.lines := by
  have some : m.options.isEmpty = false := by
    rw [List.isEmpty_eq_false_iff]
    exact List.ne_nil_of_mem member
  have own : "    " ++ option.constant ++ " = " ++ Text.quoted option.flag ∈ m.classHead := by
    rw [classHead, some]
    refine List.mem_append_right _ (List.mem_cons_of_mem _ (List.mem_map.mpr ⟨option, member, rfl⟩))
  simp only [lines, List.mem_append]
  tauto

/-- Lines of a module bring lines of its text. -/
theorem isInfix_lines_text {block : List String} (inside : block <:+: m.lines) :
    block.flatMap (fun line => Filter.lines line.toList) <:+: Filter.lines m.text.toList := by
  obtain ⟨before, after, whole⟩ := inside
  rw [toList_text, Filter.lines_unlines (by simp), ← whole]
  refine ⟨before.flatMap fun line => Filter.lines line.toList,
    (after.flatMap fun line => Filter.lines line.toList) ++ [[]], ?_⟩
  simp [List.flatMap_map]
  rfl

end ModuleText

namespace Python

variable {d : Definition} {c : Configuration} {style : Style} {option : OptionDefinition}
  {name codec : String} {bases : Bases}

/-- The lines give an option its texts: one sets the constant for the flag, and at the end of the
method for the help text another one returns that text. -/
structure GivesTexts (m : ModuleText) (rows : List (List Char)) (option : OptionDefinition)
    (name : String) : Prop where
  flag : ∃ literal, IsLiteral literal option.flag.toList ∧
    ("    " ++ Text.uppered name ++ " = ").toList ++ literal ∈ rows
  tip : ∃ literal, IsLiteral literal (Text.withUpperStart option.help).toList ∧
    (m.tipHead (optionText option name)).flatMap (fun line => lines line.toList) ++
      ["        return ".toList ++ literal] <:+: rows

theorem map_fst_namedOptions (apart : d.AttributesApart) :
    (namedOptions d).map Prod.fst = d.options :=
  List.map_fst_zip apart.length_eq.ge

theorem usable_of_named (formed : d.WellFormed) (named : (option, name) ∈ namedOptions d) :
    Name.IsUsable name := by
  have proper : ∀ property ∈ d.options.map OptionDefinition.property,
      Definition.isProperty property.toList = true := by
    intro property member
    obtain ⟨option, inside, rfl⟩ := List.mem_map.mp member
    exact (formed.options.each option inside).property
  exact (Member.assigns_assign _ _ _).usable Sanitizer.forOptions_optionSanitizer proper name
    (List.of_mem_zip named).2

/-- Neither of the statements with a literal has a line end in it. -/
theorem lines_literal (front : String) (single : '\n' ∉ front.toList) (s : String) :
    lines (front ++ Text.quoted s).toList = [front.toList ++ Text.quotedChars s.toList] := by
  have literal : '\n' ∉ Text.quotedChars s.toList := Text.not_mem_quotedChars (by decide) _
  rw [Text.quoted, String.toList_append, String.toList_ofList]
  exact Filter.lines_single (by simp [single, literal])

theorem givesTexts_text (formed : d.WellFormed) (named : (option, name) ∈ namedOptions d) :
    GivesTexts (moduleText c style codec bases d)
      (lines (moduleText c style codec bases d).text.toList) option name := by
  have usable := usable_of_named formed named
  have member : optionText option name ∈ (moduleText c style codec bases d).options :=
    List.mem_map.mpr ⟨_, named, rfl⟩
  constructor
  · refine ⟨_, Text.isLiteral_quotedChars _, ?_⟩
    have single : '\n' ∉ ("    " ++ Text.uppered name ++ " = ").toList := by
      simp [usable.newline_not_mem_uppered]
    obtain ⟨before, after, whole⟩ := List.append_of_mem (ModuleText.constant_mem_lines member)
    have own : ["    " ++ Text.uppered name ++ " = " ++ Text.quoted option.flag] <:+:
        (moduleText c style codec bases d).lines :=
      ⟨before, after, by rw [whole, List.append_assoc]; rfl⟩
    have inside := ModuleText.isInfix_lines_text own
    rw [List.flatMap_singleton, lines_literal _ single] at inside
    exact inside.subset (List.mem_singleton_self _)
  · refine ⟨_, Text.isLiteral_quotedChars _, ?_⟩
    have inside := ModuleText.isInfix_lines_text
      ((ModuleText.isInfix_tipText _ _).trans (ModuleText.tipText_isInfix_lines member))
    rwa [List.flatMap_append, List.flatMap_singleton, lines_literal _ (by decide)] at inside

theorem ended_tipHead (formed : d.WellFormed) (named : (option, name) ∈ namedOptions d)
    (m : ModuleText) :
    Ended ((m.tipHead (optionText option name)).flatMap fun line => lines line.toList) := by
  have usable := usable_of_named formed named
  have proper := (formed.options.each option (List.of_mem_zip named).1).property
  rw [ModuleText.tipHead, List.flatMap_append, List.flatMap_singleton]
  refine Ended.append ?_ ?_
  · have hinted : '\n' ∉ (m.hint " -> str").toList := by
      rw [ModuleText.hint]
      split <;> decide
    rw [String.toList_append]
    refine Formatting.ended_lines ?_ (Formatting.exists_getLast?_append _ ⟨':', rfl, by decide⟩)
    simp [hinted, optionText, Name.newline_not_mem usable.isWordChar]
  · rw [ModuleText.commented]
    split
    · rw [List.flatMap_singleton, String.toList_append, String.toList_append, String.toList_append,
        List.append_assoc, List.append_assoc]
      exact Formatting.ended_lines_property proper ⟨by decide, by decide⟩
        ⟨'"', by decide, by decide⟩
    · simp [Formatting.Ended]

/-- The clean-up takes no literal away. -/
theorem GivesTexts.format (formed : d.WellFormed) (named : (option, name) ∈ namedOptions d)
    {m : ModuleText} {code : List Char} (given : GivesTexts m (lines code) option name) :
    GivesTexts m (lines (Formatting.format code)) option name := by
  have alone {literal text : List Char} (reads : IsLiteral literal text) (front : List Char) :
      Ended [front ++ literal] :=
    List.forall_mem_singleton.mpr (Formatting.exists_getLast?_append front reads.ends)
  constructor
  · obtain ⟨literal, reads, member⟩ := given.flag
    obtain ⟨before, after, whole⟩ := List.append_of_mem member
    have inside := Formatting.isInfix_lines_format (alone reads _)
      ⟨before, after, by rw [whole, List.append_assoc]; rfl⟩
    exact ⟨literal, reads, inside.subset (List.mem_singleton_self _)⟩
  · obtain ⟨literal, reads, inside⟩ := given.tip
    have ended := (ended_tipHead formed named m).append (alone reads "        return ".toList)
    exact ⟨literal, reads, Formatting.isInfix_lines_format ended inside⟩

/-- A quoted text is read as the text, and in the module of a definition that was read the literals
for the flags and the help texts of its options are read as those, also in the formatted code. -/
theorem generate_keeps_literals :
    (∀ s : String, IsLiteral (Filter.quoted.apply s).toList s.toList) ∧
      ∀ {source : Option String} {value : Json} {d : Definition} {log : List LogRecord},
        Definition.ofJson source value = .ok (d, log) →
      ∀ {c : Configuration} {style : Style} {generated : GeneratedCode},
        ((generator c style).generate d).result = .ok (.done generated) →
        d.AttributesApart ∧ (namedOptions d).map Prod.fst = d.options ∧
        ∃ codec bases, emit c style d = .ok (moduleText c style codec bases d).text ∧
          generated.code = formatCode (moduleText c style codec bases d).text ∧
          ∀ code ∈ [(moduleText c style codec bases d).text, generated.code],
          ∀ entry ∈ namedOptions d,
            GivesTexts (moduleText c style codec bases d) (lines code.toList) entry.1 entry.2 := by
  constructor
  · intro s
    have literal := Text.isLiteral_quotedChars s.toList
    rwa [Filter.apply, Text.quoted, String.toList_ofList]
  · intro source value d log accepted c style generated done
    obtain ⟨members, rfl, accepted⟩ := Definition.ofMembers_of_ofJson accepted
    have formed := Definition.ofMembers_wellFormed accepted
    obtain ⟨text, emitted, code⟩ := emit_of_generate done
    obtain ⟨codec, bases, _, _, rfl⟩ := emit_eq_ok_iff.mp emitted
    have apart := formed.attributesApart
    refine ⟨apart, map_fst_namedOptions apart, codec, bases, emitted, code, ?_⟩
    have raw (entry : OptionDefinition × String) (named : entry ∈ namedOptions d) :
        GivesTexts (moduleText c style codec bases d)
          (lines (moduleText c style codec bases d).text.toList) entry.1 entry.2 :=
      givesTexts_text formed named
    simp only [List.forall_mem_cons, List.not_mem_nil, false_imp_iff, implies_true, and_true]
    refine ⟨raw, fun entry named => ?_⟩
    rw [code, formatCode, Text.over, String.toList_ofList]
    exact (raw entry named).format formed named

/-- A definition with quotes, a backslash, a line end and other characters that do not print. -/
def quotingJson : Json := .object [
  ("name", .text "Tool"), ("author", .text "someone"), ("organization", .text "some lab"),
  ("options", .array [.object [
    ("property", .text "total"), ("type", .text "int"), ("default", .text "1"),
    ("flag", .text "it's\\"), ("help", .text "é \"a\"\n'b' \x07")]])]

def quotingOption : OptionDefinition where
  property := "total"
  type := ⟨.scalar .integer, false⟩
  flag := "it's\\"
  default := "1"
  help := "é \"a\"\n'b' \x07"

def quoting : Definition where
  name := "Tool"
  author := "someone"
  organization := "some lab"
  isRoot := true
  options := [quotingOption]

theorem ofJson_quotingJson : Definition.ofJson none quotingJson =
    .ok (quoting, [⟨.warning, Definition.orphanMessage "definition 'Tool': "⟩]) := by
  with_unfolding_all rfl

theorem exists_generated_quoting :
    ∃ generated, ((generator {} {}).generate quoting).result = .ok (.done generated) :=
  ⟨_, rfl⟩

theorem generate_keeps_literals_quoting :
    (∃ log, Definition.ofJson none quotingJson = .ok (quoting, log)) ∧
      ∃ generated, ((generator {} {}).generate quoting).result = .ok (.done generated) ∧
        (∃ literal, IsLiteral literal "it's\\".toList ∧
          "    TOTAL = ".toList ++ literal ∈ lines generated.code.toList) ∧
        ∃ literal, IsLiteral literal "É \"a\"\n'b' \x07".toList ∧
          ["    def total_tip_text(self) -> str:".toList,
            "        \"\"\"Returns the help string for option total.\"\"\"".toList,
            "        return ".toList ++ literal] <:+: lines generated.code.toList := by
  obtain ⟨generated, done⟩ := exists_generated_quoting
  obtain ⟨-, -, codec, bases, -, -, given⟩ := generate_keeps_literals.2 ofJson_quotingJson done
  have attributes : quoting.attributes = ["total"] := by with_unfolding_all rfl
  have named : (quotingOption, "total") ∈ namedOptions quoting := by
    rw [namedOptions, attributes]
    exact List.mem_singleton_self _
  obtain ⟨flag, literal, reads, tip⟩ := given generated.code (by simp) _ named
  have help : Text.withUpperStart quotingOption.help = "É \"a\"\n'b' \x07" := by decide
  have head : (moduleText {} {} codec bases quoting).tipHead (optionText quotingOption "total") =
      ["    def total_tip_text(self) -> str:",
        "        \"\"\"Returns the help string for option total.\"\"\""] := by
    with_unfolding_all rfl
  have rows : ["    def total_tip_text(self) -> str:",
        "        \"\"\"Returns the help string for option total.\"\"\""].flatMap
      (fun line => lines line.toList) =
      ["    def total_tip_text(self) -> str:".toList,
        "        \"\"\"Returns the help string for option total.\"\"\"".toList] := by
    decide
  rw [help] at reads
  rw [head, rows] at tip
  exact ⟨⟨_, ofJson_quotingJson⟩, generated, done, flag, literal, reads, tip⟩

end Python

end OptionProtocol
