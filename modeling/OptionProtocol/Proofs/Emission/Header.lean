import OptionProtocol.Proofs.Emission.Expressions
import OptionProtocol.Proofs.Emission.Rows
import OptionProtocol.Proofs.Text.PhysicalLines
import OptionProtocol.Template.Basic

/-! Comments in generated code. The comment filter begins a line wherever a line feed ends one, and
a source is read with carriage returns as line ends too, so what follows one of these in a header is
only a comment if it is written as one. -/

set_option autoImplicit false

namespace OptionProtocol

open OptionProtocol.Filter (lines unlines commentLines isBlankLine)
open Text (isBlank trimEnd IsCommented ReturnsCommented physicalLines)

namespace Filter

variable {s line : List Char}

/-- A line as the comment filter writes it. -/
def commentLine (line : List Char) : List Char :=
  if isBlankLine line then ['#'] else '#' :: ' ' :: line

theorem commentLines_eq (s : List Char) :
    commentLines ['#'] s = unlines ((lines s).map commentLine) := rfl

theorem newline_not_mem_commentLine (single : '\n' ∉ line) : '\n' ∉ commentLine line := by
  unfold commentLine
  split <;> simp [single]

theorem exists_commentLine (line : List Char) : ∃ more, commentLine line = '#' :: more := by
  unfold commentLine
  split
  · exact ⟨[], rfl⟩
  · exact ⟨' ' :: line, rfl⟩

theorem isCommented_commentLine_iff (single : '\n' ∉ line) :
    IsCommented (commentLine line) ↔ isBlankLine line = false → ReturnsCommented line := by
  unfold commentLine
  split
  · rename_i blank
    simp [blank, IsCommented, physicalLines, Text.onFirst]
  · rename_i filled
    rw [Text.isCommented_mark_iff (by simp [single]), Text.returnsCommented_cons]
    simp [filled]

theorem isCommented_commentLines_iff (s : List Char) : IsCommented (commentLines ['#'] s) ↔
    ∀ line ∈ lines s, isBlankLine line = false → ReturnsCommented line := by
  rw [commentLines_eq, Text.isCommented_unlines]
  · simp only [List.forall_mem_map]
    exact forall₂_congr fun line member =>
      isCommented_commentLine_iff (newline_not_mem_of_mem_lines member)
  · intro member
    obtain ⟨line, _, same⟩ := List.mem_map.mp member
    obtain ⟨more, starts⟩ := exists_commentLine line
    rw [same] at starts
    cases starts
  · simp only [List.forall_mem_map]
    exact fun line member => newline_not_mem_commentLine (newline_not_mem_of_mem_lines member)

/-! Comments without the blanks at their ends. -/

theorem trimEnd_commentLine (line : List Char) : trimEnd isBlank (commentLine line) =
    if isBlankLine line then ['#'] else '#' :: ' ' :: trimEnd isBlank line := by
  unfold commentLine
  split
  · rfl
  · rename_i filled
    obtain ⟨c, member, kept⟩ : ∃ c ∈ line, isBlank c = false := by
      simpa [isBlankLine] using filled
    exact Text.trimEnd_append member kept ['#', ' ']

theorem isCommented_trimEnd_commentLine_iff (single : '\n' ∉ line) :
    IsCommented (trimEnd isBlank (commentLine line)) ↔ ReturnsCommented (trimEnd isBlank line) := by
  rw [trimEnd_commentLine]
  split
  · rename_i blank
    have none : trimEnd isBlank line = [] := by
      simpa [trimEnd, List.dropWhile_eq_nil_iff, isBlankLine] using blank
    simp [none, IsCommented, Text.returnsCommented_nil, physicalLines, Text.onFirst]
  · have left : '\n' ∉ trimEnd isBlank line := fun inside =>
      single ((Text.isPrefix_trimEnd isBlank line).subset inside)
    rw [Text.isCommented_mark_iff (by simp [left]), Text.returnsCommented_cons]
    simp

/-- The header that the comments are in formatted code. -/
def formattedHeader (s : List Char) : List Char :=
  unlines ((lines (commentLines ['#'] s)).map (trimEnd isBlank))

theorem lines_commentLines (s : List Char) :
    lines (commentLines ['#'] s) = (lines s).map commentLine := by
  rw [commentLines_eq, lines_unlines_of_single (by simp [lines_ne_nil])]
  simp only [List.forall_mem_map]
  exact fun line member => newline_not_mem_commentLine (newline_not_mem_of_mem_lines member)

theorem exists_trimEnd_commentLine (line : List Char) :
    ∃ more, trimEnd isBlank (commentLine line) = '#' :: more := by
  obtain ⟨more, starts⟩ := exists_commentLine line
  rw [starts]
  exact Text.trimEnd_cons (by decide) more

theorem exists_formattedHeader (s : List Char) : ∃ more, formattedHeader s = '#' :: more := by
  obtain ⟨line, rows, split⟩ := List.exists_cons_of_ne_nil (lines_ne_nil s)
  obtain ⟨more, starts⟩ := exists_trimEnd_commentLine line
  rw [formattedHeader, lines_commentLines, split, List.map_cons, List.map_cons, starts]
  cases rows with
  | nil => exact ⟨more, by simp [unlines, Text.joinWith]⟩
  | cons next rows => exact ⟨_, unlines_cons _ (by simp)⟩

theorem getLast?_formattedHeader (s : List Char) : (formattedHeader s).getLast? ≠ some '\n' := by
  obtain ⟨rows, line, split⟩ := (List.eq_nil_or_concat' (lines s)).resolve_left (lines_ne_nil s)
  obtain ⟨front, whole⟩ := Formatting.exists_unlines_concat
    ((rows.map commentLine).map (trimEnd isBlank)) (trimEnd isBlank (commentLine line))
  obtain ⟨more, starts⟩ := exists_trimEnd_commentLine line
  rw [formattedHeader, lines_commentLines, split, List.map_append, List.map_append,
    List.map_singleton, List.map_singleton, whole,
    List.getLast?_append_of_ne_nil _ (by simp [starts])]
  exact fun last => absurd (Text.drop_getLast?_trimEnd isBlank _ '\n' last) (by decide)

theorem isCommented_formattedHeader_iff (s : List Char) : IsCommented (formattedHeader s) ↔
    ∀ line ∈ lines s, ReturnsCommented (trimEnd isBlank line) := by
  rw [formattedHeader, lines_commentLines, List.map_map, Text.isCommented_unlines]
  · simp only [List.forall_mem_map, Function.comp_apply]
    exact forall₂_congr fun line member =>
      isCommented_trimEnd_commentLine_iff (newline_not_mem_of_mem_lines member)
  · intro member
    obtain ⟨line, _, same⟩ := List.mem_map.mp member
    obtain ⟨more, starts⟩ := exists_trimEnd_commentLine line
    rw [Function.comp_apply, starts] at same
    cases same
  · simp only [List.forall_mem_map, Function.comp_apply]
    exact fun line member inside =>
      newline_not_mem_commentLine (newline_not_mem_of_mem_lines member)
        ((Text.isPrefix_trimEnd isBlank _).subset inside)

end Filter

namespace ModuleText

variable {m : ModuleText} {text : String}

theorem lines_text_of_header (given : m.licenseHeader = some text) :
    ∃ more, Filter.lines m.text.toList =
      Filter.lines (commentLines ['#'] text.toList) ++ [] :: quotes.toList :: more := by
  obtain ⟨more, whole⟩ : ∃ more,
      m.lines = Text.over (commentLines ['#']) text :: "" :: quotes :: more := by
    simp [ModuleText.lines, header, given]
  refine ⟨(more.flatMap fun line => Filter.lines line.toList) ++ [[]], ?_⟩
  rw [toList_text, Filter.lines_unlines (by simp), whole]
  simp [List.flatMap_map, Text.over]
  rfl

/-- Formatted code begins with the header and the first docstring. -/
theorem exists_format_header (given : m.licenseHeader = some text) :
    ∃ rest, Formatting.format m.text.toList =
      Filter.formattedHeader text.toList ++ "\n\n\"\"\"".toList ++ rest := by
  obtain ⟨more, split⟩ := lines_text_of_header given
  have some : Filter.lines (commentLines ['#'] text.toList) ≠ [] := Filter.lines_ne_nil _
  have filled : ∀ row ∈ Filter.lines (commentLines ['#'] text.toList),
      ∃ c ∈ row, isBlank c = false := by
    rw [Filter.lines_commentLines]
    simp only [List.forall_mem_map]
    intro line _
    obtain ⟨more, starts⟩ := Filter.exists_commentLine line
    exact ⟨'#', by simp [starts], by decide⟩
  have head : Formatting.squeeze 0 ([] :: quotes.toList :: more) =
      [] :: quotes.toList :: Formatting.squeeze 0 more := by
    rfl
  have whole : Formatting.tidied m.text.toList =
      Filter.formattedHeader text.toList ++ "\n\n\"\"\"".toList ++
        unlines ([] :: Formatting.squeeze 0 more) := by
    have behind := Formatting.unlines_append_head quotes.toList [] (Formatting.squeeze 0 more)
    rw [List.append_nil] at behind
    rw [Formatting.tidied, split, Formatting.squeeze_append_filled filled some, head,
      Filter.unlines_append (by simpa using some) (by simp), Filter.unlines_cons [] (by simp),
      behind, Filter.formattedHeader]
    simp [quotes]
  have first : ∀ c ∈ (Formatting.tidied m.text.toList).head?, (c == '\n') = false := by
    obtain ⟨more, starts⟩ := Filter.exists_formattedHeader text.toList
    rw [whole, starts]
    rintro c ⟨⟩
    rfl
  have last : ∀ c ∈ (Filter.formattedHeader text.toList ++ "\n\n\"\"\"".toList).getLast?,
      (c == '\n') = false := by
    rw [List.getLast?_append]
    rintro c ⟨⟩
    rfl
  obtain ⟨left, cut⟩ := Text.exists_trimEnd_append (unlines ([] :: Formatting.squeeze 0 more)) last
  refine ⟨left ++ ['\n'], ?_⟩
  rw [Formatting.format_eq, Text.trim, Text.trimStart, Text.dropWhile_eq_self first, whole, cut]
  simp

end ModuleText

namespace Python

variable {d : Definition} {c : Configuration} {style : Style} {generated : GeneratedCode}

/-- The code generated with a header begins with the lines of the header, an empty line, and the
first docstring. -/
theorem exists_header (headed : c.licenseHeader.isTruthy = true)
    (done : ((generator c style).generate d).result = .ok (.done generated)) :
    ∃ rest, physicalLines generated.code.toList =
      physicalLines (Filter.formattedHeader c.licenseHeader.plain.toList) ++
        [] :: physicalLines ("\"\"\"".toList ++ rest) := by
  obtain ⟨codec, bases, code⟩ := generate_done done
  have given : (moduleText c style codec bases d).licenseHeader = some c.licenseHeader.plain :=
    if_pos headed
  obtain ⟨rest, whole⟩ := ModuleText.exists_format_header given
  have feeds : "\n\n\"\"\"".toList = '\n' :: '\n' :: "\"\"\"".toList := rfl
  obtain ⟨more, starts⟩ := Filter.exists_formattedHeader c.licenseHeader.plain.toList
  refine ⟨rest, ?_⟩
  rw [code, formatCode, Text.over, String.toList_ofList, whole, feeds, List.append_assoc,
    List.cons_append, List.cons_append, Text.physicalLines_append (by simp [starts]) ?_,
    Text.physicalLines_newline]
  exact Filter.getLast?_formattedHeader _

/-- The comment filter makes comments of all lines of a text just if every carriage return inside a
line has a comment behind it. In formatted code, where blanks at the ends of lines are gone, all
lines of a header with that text are comments just if the same holds without those blanks. -/
theorem comment_isCommented_iff (s : String) :
    (IsCommented ((Filter.comment "#").apply s).toList ↔
      ∀ line ∈ lines s.toList, isBlankLine line = false → ReturnsCommented line) ∧
    (IsCommented (Filter.formattedHeader s.toList) ↔
      ∀ line ∈ lines s.toList, ReturnsCommented (trimEnd isBlank line)) ∧
    ∀ {d : Definition} {c : Configuration} {style : Style} {generated : GeneratedCode},
      c.licenseHeader.isTruthy = true → c.licenseHeader.plain = s →
      ((generator c style).generate d).result = .ok (.done generated) →
      ∃ rest, physicalLines generated.code.toList =
        physicalLines (Filter.formattedHeader s.toList) ++
          [] :: physicalLines ("\"\"\"".toList ++ rest) := by
  refine ⟨?_, Filter.isCommented_formattedHeader_iff _, ?_⟩
  · rw [Filter.apply, Text.over, String.toList_ofList]
    exact Filter.isCommented_commentLines_iff s.toList
  · rintro d c style generated headed rfl done
    exact exists_header headed done

theorem exists_generated_headed (text : String) :
    ∃ generated, ((generator { licenseHeader := .text text } {}).generate spread).result =
      .ok (.done generated) :=
  ⟨_, rfl⟩

/-- A header with both characters at the ends of its lines, one of which is empty. -/
def spacedHeader : String := "All rights reserved.\r\n\r\nSee LICENSE."

theorem comment_isCommented_iff_spacedHeader :
    IsCommented ((Filter.comment "#").apply spacedHeader).toList ∧
      IsCommented (Filter.formattedHeader spacedHeader.toList) ∧
      ∃ generated, ((generator { licenseHeader := .text spacedHeader } {}).generate spread).result =
          .ok (.done generated) ∧
        ∃ rest, physicalLines generated.code.toList =
          ["# All rights reserved.".toList, "#".toList, "# See LICENSE.".toList, []] ++
            physicalLines ("\"\"\"".toList ++ rest) := by
  obtain ⟨generated, done⟩ := exists_generated_headed spacedHeader
  obtain ⟨filtered, formatted, headed⟩ := comment_isCommented_iff spacedHeader
  obtain ⟨rest, code⟩ := headed rfl rfl done
  have raw : ∀ line ∈ lines spacedHeader.toList,
      isBlankLine line = false → ReturnsCommented line := by
    decide
  have left : ∀ line ∈ lines spacedHeader.toList, ReturnsCommented (trimEnd isBlank line) := by
    decide
  have header : physicalLines (Filter.formattedHeader spacedHeader.toList) =
      ["# All rights reserved.".toList, "#".toList, "# See LICENSE.".toList] := by
    decide
  refine ⟨filtered.mpr raw, formatted.mpr left, generated, done, rest, ?_⟩
  rw [code]
  exact congrArg (· ++ [] :: physicalLines ("\"\"\"".toList ++ rest)) header

-- What stands behind the carriage return is code of the module.
theorem comment_not_isCommented :
    ¬IsCommented ((Filter.comment "#").apply "a\rimport os").toList ∧
      ∃ generated,
        ((generator { licenseHeader := .text "a\rimport os" } {}).generate spread).result =
          .ok (.done generated) ∧
        ∃ rest, physicalLines generated.code.toList =
          ["# a".toList, "import os".toList, []] ++ physicalLines ("\"\"\"".toList ++ rest) := by
  obtain ⟨generated, done⟩ := exists_generated_headed "a\rimport os"
  obtain ⟨rest, code⟩ := exists_header rfl done
  have escapes : "import os".toList ∈
      physicalLines ((Filter.comment "#").apply "a\rimport os").toList := by
    decide
  have header : physicalLines (Filter.formattedHeader "a\rimport os".toList) =
      ["# a".toList, "import os".toList] := by
    decide
  refine ⟨fun commented => absurd (commented _ escapes) (by decide), generated, done, rest, ?_⟩
  rw [code]
  exact congrArg (· ++ [] :: physicalLines ("\"\"\"".toList ++ rest)) header

end Python

end OptionProtocol
