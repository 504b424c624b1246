import Mathlib.Tactic.Tauto
import OptionProtocol.Proofs.Expression.TextValue
import OptionProtocol.Proofs.Text.LineEnds
import OptionProtocol.Proofs.Text.Pieces
import OptionProtocol.Template.Filter

/-! Texts between three double quotes. The filter for docstrings escapes every backslash and every
three quotes, so nothing closes the literal before its end, and what the literal stands for is the
text on one line. -/

set_option autoImplicit false

namespace OptionProtocol.Filter

open Expression (longBody unescaped literalText?)

variable {s rest : List Char} {c : Char}

def escapedQuotes : List Char := ['\\', '"', '\\', '"', '\\', '"']

/-- Both replacements of the filter at once. -/
def escapeDocstring : List Char → List Char
  | [] => []
  | '\\' :: rest => '\\' :: '\\' :: escapeDocstring rest
  | '"' :: '"' :: '"' :: rest => escapedQuotes ++ escapeDocstring rest
  | c :: rest => c :: escapeDocstring rest

theorem replaceAll_append {old : List Char} (filled : old ≠ []) (new s : List Char) :
    Text.replaceAll old new (old ++ s) = new ++ Text.replaceAll old new s := by
  obtain ⟨c, old, rfl⟩ := List.exists_cons_of_ne_nil filled
  have starts : (c :: old).isPrefixOf (c :: (old ++ s)) = true := by simp
  rw [List.cons_append, Text.replaceAll, if_pos ⟨by simp, starts⟩]
  simp

theorem replaceAll_cons {old : List Char} (differs : ¬old <+: c :: s) (new : List Char) :
    Text.replaceAll old new (c :: s) = c :: Text.replaceAll old new s := by
  rw [Text.replaceAll, if_neg]
  rintro ⟨-, starts⟩
  exact differs (List.isPrefixOf_iff_prefix.mp starts)

/-- Where two quotes stand after the backslashes are doubled, they stood before. -/
theorem quotes_of_doubled (starts : ['"', '"'] <+: Text.replaceAll ['\\'] ['\\', '\\'] s) :
    ∃ rest, s = '"' :: '"' :: rest := by
  have head {c : Char} {s more : List Char}
      (starts : '"' :: more <+: Text.replaceAll ['\\'] ['\\', '\\'] s) :
      ∃ rest, s = '"' :: rest ∧ more <+: Text.replaceAll ['\\'] ['\\', '\\'] rest := by
    cases s with
    | nil => simp [Text.replaceAll] at starts
    | cons d rest =>
      by_cases escape : d = '\\'
      · subst escape
        have doubled := replaceAll_append (List.cons_ne_nil '\\' []) ['\\', '\\'] rest
        rw [List.singleton_append] at doubled
        rw [doubled] at starts
        simp at starts
      · rw [replaceAll_cons (by simpa [List.cons_prefix_cons] using Ne.symm escape)] at starts
        obtain ⟨rfl, behind⟩ := List.cons_prefix_cons.mp starts
        exact ⟨rest, rfl, behind⟩
  obtain ⟨first, rfl, behind⟩ := head (c := '"') starts
  obtain ⟨second, rfl, -⟩ := head (c := '"') behind
  exact ⟨second, rfl⟩

theorem docstringLine_eq (s : List Char) : docstringLine s = escapeDocstring (joinWords s) := by
  rw [docstringLine]
  generalize joinWords s = line
  fun_induction escapeDocstring line with
  | case1 => simp [Text.replaceAll]
  | case2 rest hyp =>
    have doubled := replaceAll_append (List.cons_ne_nil '\\' []) ['\\', '\\'] rest
    rw [List.singleton_append] at doubled
    rw [doubled, List.cons_append, List.singleton_append, replaceAll_cons (by simp),
      replaceAll_cons (by simp), hyp]
  | case3 rest hyp =>
    have quote (s : List Char) : Text.replaceAll ['\\'] ['\\', '\\'] ('"' :: s) =
        '"' :: Text.replaceAll ['\\'] ['\\', '\\'] s := replaceAll_cons (by simp) _
    rw [quote, quote, quote, ← hyp]
    exact replaceAll_append (List.cons_ne_nil '"' ['"', '"']) escapedQuotes _
  | case4 c rest escape quotes hyp =>
    have plain : ¬['\\'] <+: c :: rest := by
      rintro starts
      obtain ⟨rfl, -⟩ := List.cons_prefix_cons.mp starts
      exact escape rfl
    have few : ¬['"', '"', '"'] <+: c :: Text.replaceAll ['\\'] ['\\', '\\'] rest := by
      intro starts
      obtain ⟨rfl, behind⟩ := List.cons_prefix_cons.mp starts
      obtain ⟨more, rfl⟩ := quotes_of_doubled behind
      exact quotes more rfl rfl
    rw [replaceAll_cons plain, replaceAll_cons few, hyp]

theorem head?_escapeDocstring (other : s.head? ≠ some '"') (rest : List Char) :
    (escapeDocstring s ++ '\n' :: rest).head? ≠ some '"' := by
  fun_cases escapeDocstring s <;> simp_all

/-- A quote, with not two more behind it, stays a single one, and what follows does not close a
literal. -/
theorem exists_escapeDocstring (few : ∀ more, s = '"' :: '"' :: more → False) (filled : rest ≠ []) :
    ∃ a b after, escapeDocstring s ++ '\n' :: rest = a :: b :: after ∧ ¬(a = '"' ∧ b = '"') := by
  obtain ⟨d, rest, rfl⟩ := List.exists_cons_of_ne_nil filled
  by_cases quote : s.head? = some '"'
  · obtain ⟨more, rfl⟩ := List.head?_eq_some_iff.mp quote
    have alone : more.head? ≠ some '"' := by
      intro second
      obtain ⟨after, rfl⟩ := List.head?_eq_some_iff.mp second
      exact few after rfl
    have next := head?_escapeDocstring alone (d :: rest)
    have kept : escapeDocstring ('"' :: more) = '"' :: escapeDocstring more := by
      rw [escapeDocstring]
      · simp
      · rintro after - rfl
        exact alone rfl
    have filled := List.append_ne_nil_of_right_ne_nil (escapeDocstring more)
      (List.cons_ne_nil '\n' (d :: rest))
    obtain ⟨b, after, whole⟩ := List.exists_cons_of_ne_nil filled
    rw [whole] at next
    refine ⟨'"', b, after, by rw [kept, List.cons_append, whole], ?_⟩
    rintro ⟨-, rfl⟩
    exact next rfl
  · have first := head?_escapeDocstring quote (d :: rest)
    have long : 2 ≤ (escapeDocstring s ++ '\n' :: d :: rest).length := by
      rw [List.length_append, List.length_cons, List.length_cons]
      omega
    match whole : escapeDocstring s ++ '\n' :: d :: rest with
    | [] | [_] => simp [whole] at long
    | a :: b :: after =>
      rw [whole] at first
      refine ⟨a, b, after, rfl, ?_⟩
      rintro ⟨rfl, -⟩
      exact first rfl

/-- An escaped text neither closes a literal in three quotes nor takes anything of what follows. -/
theorem longBody_escapeDocstring (s : List Char) (filled : rest ≠ []) :
    longBody '"' (escapeDocstring s ++ '\n' :: rest) =
      (longBody '"' ('\n' :: rest)).map fun (body, after) =>
        (escapeDocstring s ++ body, after) := by
  fun_induction escapeDocstring s with
  | case1 => simp
  | case2 more hyp =>
    rw [List.cons_append, List.cons_append, Expression.longBody_escape, hyp, Option.map_map]
    rfl
  | case3 more hyp =>
    simp only [escapedQuotes, List.cons_append, List.nil_append, Expression.longBody_escape, hyp,
      Option.map_map]
    rfl
  | case4 c more escape quotes hyp =>
    rw [List.cons_append]
    by_cases quote : c = '"'
    · subst quote
      obtain ⟨a, b, after, whole, open_⟩ :=
        exists_escapeDocstring (fun after same => quotes after rfl same) filled
      rw [whole] at hyp ⊢
      rw [Expression.longBody_quote (by decide) open_, hyp, Option.map_map]
      rfl
    · rw [Expression.longBody_cons (fun same => escape same) quote, hyp, Option.map_map]
      rfl

theorem unescaped_escapeDocstring (s rest : List Char) :
    unescaped (escapeDocstring s ++ rest) = (unescaped rest).map (s ++ ·) := by
  have backslash (s : List Char) :
      unescaped ('\\' :: '\\' :: s) = (unescaped s).map ('\\' :: ·) :=
    Expression.unescaped_pair rfl
  have quote (s : List Char) : unescaped ('\\' :: '"' :: s) = (unescaped s).map ('"' :: ·) :=
    Expression.unescaped_pair rfl
  fun_induction escapeDocstring s with
  | case1 => simp
  | case2 more hyp =>
    rw [List.cons_append, List.cons_append, backslash, hyp, Option.map_map]
    rfl
  | case3 more hyp =>
    simp only [escapedQuotes, List.cons_append, List.nil_append, quote, hyp, Option.map_map]
    rfl
  | case4 c more escape quotes hyp =>
    rw [List.cons_append, Expression.unescaped_cons (fun same => escape same), hyp,
      Option.map_map]
    rfl

/-! Texts on one line. -/

/-- On one line there are only spaces between the words. -/
theorem mem_joinWords (member : c ∈ joinWords s) : c = ' ' ∨ c ∈ s ∧ Text.isBlank c = false := by
  obtain space | ⟨word, inside, member⟩ := Text.mem_joinWith member
  · exact .inl (List.mem_singleton.mp space)
  · have piece := (List.mem_filter.mp inside).1
    exact .inr ⟨Text.mem_of_mem_splitWhere piece member,
      Text.sep_eq_false_of_mem_splitWhere piece c member⟩

theorem mem_escapeDocstring (member : c ∈ escapeDocstring s) : c ∈ s ∨ c = '\\' := by
  fun_induction escapeDocstring s with
  | case1 => cases member
  | case2 rest hyp =>
    simp only [List.mem_cons] at member ⊢
    tauto
  | case3 rest hyp =>
    simp only [escapedQuotes, List.mem_append, List.mem_cons, List.not_mem_nil, or_false]
      at member ⊢
    tauto
  | case4 d rest escape quotes hyp =>
    simp only [List.mem_cons] at member ⊢
    tauto

/-- A line that is not empty keeps the line ends apart that stand before and after it. -/
theorem normalizeLineEnds_line {line : List Char} (filled : line ≠ []) (single : '\n' ∉ line)
    (unreturned : '\r' ∉ line ++ rest) (front : List Char) :
    Text.normalizeLineEnds (front ++ (line ++ '\n' :: rest)) =
      Text.normalizeLineEnds front ++ (line ++ '\n' :: rest) := by
  obtain ⟨c, line, rfl⟩ := List.exists_cons_of_ne_nil filled
  have other : c ≠ '\n' := fun same => single (same ▸ List.mem_cons_self)
  have kept : '\r' ∉ c :: (line ++ '\n' :: rest) := by simpa using unreturned
  rw [List.cons_append, Text.normalizeLineEnds_append front other,
    Text.normalizeLineEnds_eq_self kept]

/-- What is between the quotes is the body of the literal, and stands for the text. -/
structure Encloses (body text : List Char) : Prop where
  closed : longBody '"' (body ++ ['"', '"', '"']) = some (body, [])
  read : unescaped body = some text

theorem Encloses.plain {body : List Char} (unquoted : '"' ∉ body) (plain : '\\' ∉ body) :
    Encloses body body where
  closed := by
    rw [Expression.longBody_plain unquoted plain, Expression.longBody_quotes (by decide)]
    simp
  read := by
    have whole := Expression.unescaped_append plain []
    rw [List.append_nil] at whole
    rw [whole]
    simp [unescaped, Expression.unescapedFrom]

theorem Encloses.line {front body text : List Char} (unquoted : '"' ∉ front) (plain : '\\' ∉ front)
    (behind : Encloses ('\n' :: body) ('\n' :: text)) (line : List Char) :
    Encloses (front ++ (escapeDocstring line ++ '\n' :: body))
      (front ++ (line ++ '\n' :: text)) where
  closed := by
    have closed := behind.closed
    rw [List.cons_append] at closed
    rw [List.append_assoc, List.append_assoc, List.cons_append,
      Expression.longBody_plain unquoted plain, longBody_escapeDocstring line (by simp), closed]
    rfl
  read := by
    rw [Expression.unescaped_append plain, unescaped_escapeDocstring, behind.read]
    rfl

/-- The source text of a docstring, with escaped text on the line before the closing quotes. -/
theorem literalText?_of_encloses {source body text : List Char} (readable : '\x00' ∉ source)
    (encloses : Encloses body text)
    (whole : Text.normalizeLineEnds source = '"' :: '"' :: '"' :: (body ++ ['"', '"', '"'])) :
    literalText? source = some text := by
  have starts : Expression.stringStart? (Text.normalizeLineEnds source) =
      some ({ body := [] }, '"', '"' :: '"' :: (body ++ ['"', '"', '"'])) := by
    rw [whole, Expression.stringStart?_eq_some_iff]
    exact ⟨[], rfl, rfl, by simp, rfl⟩
  have inside : Expression.stringBody '"' ('"' :: '"' :: (body ++ ['"', '"', '"'])) =
      some (body, []) := by
    rw [Expression.stringBody, if_pos ⟨rfl, rfl⟩, encloses.closed]
  simp [literalText?, readable, starts, inside, Expression.StringLiteral.text?, encloses.read]

def longQuotes : List Char := ['"', '"', '"']

/-- What stands between the quotes of a docstring: the text behind what is in front of it, and the
indentation of the closing quotes on the next line. -/
def docstringBody (front text indent : List Char) : List Char :=
  front ++ docstringLine text ++ '\n' :: indent

def docstringText (front text indent : List Char) : List Char :=
  front ++ joinWords text ++ '\n' :: indent

variable {front text indent : List Char}

theorem joinWords_single (text : List Char) : '\n' ∉ joinWords text ∧ '\r' ∉ joinWords text := by
  constructor
  all_goals
    intro member
    obtain space | ⟨-, kept⟩ := mem_joinWords member
    · cases space
    · cases kept

theorem escapeDocstring_single (text : List Char) :
    '\n' ∉ escapeDocstring (joinWords text) ∧ '\r' ∉ escapeDocstring (joinWords text) := by
  obtain ⟨line, return_⟩ := joinWords_single text
  constructor
  · intro member
    obtain own | escape := mem_escapeDocstring member
    · exact line own
    · cases escape
  · intro member
    obtain own | escape := mem_escapeDocstring member
    · exact return_ own
    · cases escape

theorem escapeDocstring_ne_nil (filled : s ≠ []) : escapeDocstring s ≠ [] := by
  fun_cases escapeDocstring s <;> simp_all [escapedQuotes]

theorem normalizeLineEnds_plain (other : c ≠ '\n') (absent : c ∉ s) :
    c ∉ Text.normalizeLineEnds s := by
  intro member
  obtain own | newline := Text.mem_normalizeLineEnds member
  · exact absent own
  · exact other newline

theorem encloses_docstring (unquoted : '"' ∉ front) (plain : '\\' ∉ front)
    (blank : ∀ c ∈ indent, c = ' ' ∨ c = '\t') :
    Encloses (Text.normalizeLineEnds (docstringBody front text indent))
      (Text.normalizeLineEnds (docstringText front text indent)) := by
  have other {c : Char} (unlike : c ≠ ' ' ∧ c ≠ '\t') : c ∉ indent := by
    intro member
    obtain space | tab := blank c member
    · exact unlike.1 space
    · exact unlike.2 tab
  have last : Encloses ('\n' :: indent) ('\n' :: indent) :=
    .plain (by simpa using other (by decide)) (by simpa using other (by decide))
  rw [docstringBody, docstringText, docstringLine_eq]
  by_cases empty : joinWords text = []
  · rw [empty]
    have unquoted : '"' ∉ front ++ [] ++ '\n' :: indent := by
      simpa [unquoted] using other (by decide)
    have plain : '\\' ∉ front ++ [] ++ '\n' :: indent := by
      simpa [plain] using other (by decide)
    exact .plain (normalizeLineEnds_plain (by decide) unquoted)
      (normalizeLineEnds_plain (by decide) plain)
  · obtain ⟨single, unreturned⟩ := joinWords_single text
    obtain ⟨escaped, escapedReturn⟩ := escapeDocstring_single text
    have unreturnedIndent : '\r' ∉ indent := other (by decide)
    rw [List.append_assoc, List.append_assoc,
      normalizeLineEnds_line (escapeDocstring_ne_nil empty) escaped
        (by simp [escapedReturn, unreturnedIndent]),
      normalizeLineEnds_line empty single (by simp [unreturned, unreturnedIndent])]
    exact last.line (normalizeLineEnds_plain (by decide) unquoted)
      (normalizeLineEnds_plain (by decide) plain) _

theorem readable_docstring (readable : '\x00' ∉ front ++ text)
    (blank : ∀ c ∈ indent, c = ' ' ∨ c = '\t') :
    '\x00' ∉ longQuotes ++ docstringBody front text indent ++ longQuotes := by
  have quotes : '\x00' ∉ longQuotes := by decide
  have indented : '\x00' ∉ indent := fun member => by simpa using blank _ member
  have escaped : '\x00' ∉ docstringLine text := by
    rw [docstringLine_eq]
    intro member
    obtain own | escape := mem_escapeDocstring member
    · obtain space | ⟨given, -⟩ := mem_joinWords own
      · cases space
      · exact readable (List.mem_append_right front given)
    · cases escape
  rw [List.mem_append, not_or] at readable
  simp [docstringBody, quotes, indented, escaped, readable.1]

/-- A docstring is one literal, which ends with its closing quotes and not before, and stands for
the text on one line with what is around it, all line ends being line feeds. -/
theorem literalText?_docstring (unquoted : '"' ∉ front) (plain : '\\' ∉ front)
    (readable : '\x00' ∉ front ++ text) (blank : ∀ c ∈ indent, c = ' ' ∨ c = '\t') :
    longBody '"' (Text.normalizeLineEnds (docstringBody front text indent ++ longQuotes)) =
        some (Text.normalizeLineEnds (docstringBody front text indent), []) ∧
      literalText? (longQuotes ++ docstringBody front text indent ++ longQuotes) =
        some (Text.normalizeLineEnds (docstringText front text indent)) ∧
      (Text.normalizeLineEnds (docstringText front text indent) =
        docstringText front text indent ↔ '\r' ∉ front) := by
  have encloses : Encloses (Text.normalizeLineEnds (docstringBody front text indent))
      (Text.normalizeLineEnds (docstringText front text indent)) :=
    encloses_docstring unquoted plain blank
  have closing : Text.normalizeLineEnds (docstringBody front text indent ++ longQuotes) =
      Text.normalizeLineEnds (docstringBody front text indent) ++ longQuotes :=
    Text.normalizeLineEnds_append _ (by decide) ['"', '"']
  refine ⟨by rw [closing]; exact encloses.closed, ?_, ?_⟩
  · refine literalText?_of_encloses (readable_docstring readable blank) encloses ?_
    have quote (s : List Char) :
        Text.normalizeLineEnds ('"' :: s) = '"' :: Text.normalizeLineEnds s :=
      Text.normalizeLineEnds_cons (by decide) s
    rw [List.append_assoc, longQuotes]
    simp only [List.cons_append, List.nil_append, quote]
    exact congrArg (fun s => '"' :: '"' :: '"' :: s) closing
  · have indented : '\r' ∉ indent := fun member => by simpa using blank _ member
    rw [Text.normalizeLineEnds_eq_self_iff, docstringText]
    simp [(joinWords_single text).2, indented]

-- Quotes and backslashes in a row, and more words on other lines.
theorem literalText?_docstring_quotes :
    '"' ∉ "\nAuthor: ".toList ∧ '\\' ∉ "\nAuthor: ".toList ∧
      '\x00' ∉ "\nAuthor: ".toList ++ "a\\\"\"\"\" \"\"\\\n\tb \"".toList ∧
      (∀ c ∈ "    ".toList, c = ' ' ∨ c = '\t') ∧
      literalText? (longQuotes ++ docstringBody "\nAuthor: ".toList
          "a\\\"\"\"\" \"\"\\\n\tb \"".toList "    ".toList ++ longQuotes) =
        some "\nAuthor: a\\\"\"\"\" \"\"\\ b \"\n    ".toList := by
  have unquoted : '"' ∉ "\nAuthor: ".toList := by decide
  have plain : '\\' ∉ "\nAuthor: ".toList := by decide
  have readable : '\x00' ∉ "\nAuthor: ".toList ++ "a\\\"\"\"\" \"\"\\\n\tb \"".toList := by decide
  have blank : ∀ c ∈ "    ".toList, c = ' ' ∨ c = '\t' := by simp
  refine ⟨unquoted, plain, readable, blank, ?_⟩
  rw [(literalText?_docstring unquoted plain readable blank).2.1]
  decide

-- A null character in front of the text cannot be read, and a carriage return there is read as a
-- line feed.
theorem literalText?_docstring_unlike_text :
    literalText? (longQuotes ++ docstringBody ['\x00'] [] [] ++ longQuotes) = none ∧
      literalText? (longQuotes ++ docstringBody ['\r', '-'] [] [] ++ longQuotes) =
        some ['\n', '-', '\n'] ∧
      docstringText ['\r', '-'] [] [] = ['\r', '-', '\n'] := by
  have none : docstringLine [] = [] := by
    rw [docstringLine_eq]
    rfl
  simp only [docstringBody, none]
  refine ⟨?_, ?_, ?_⟩
  all_goals decide

end OptionProtocol.Filter
