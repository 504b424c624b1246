import OptionProtocol.Expression.Basic
import OptionProtocol.Proofs.Expression.Enclosing
import OptionProtocol.Proofs.Expression.Rules
import OptionProtocol.Proofs.Text.LineEnds
import OptionProtocol.Proofs.Text.Trimming

/-! Negations of expressions. A text that is an expression is one in brackets behind "not" as well,
unless it ends in a comment or nests its own brackets as deep as brackets may be nested. -/

set_option autoImplicit false

namespace OptionProtocol.Expression

variable {s rest : List Lexeme} {fuel : Nat}

/-- No rule for operators goes on with this. -/
def Ends (s : List Lexeme) : Prop := s = [] ∨ ∃ rest, s = .operator ":=" :: rest

theorem operation_of_factor (reads : factor fuel s = some rest) (ends : Ends rest)
    (levels : List (List String)) (other : ∀ symbols ∈ levels, ":=" ∉ symbols) :
    operation (fuel + levels.length + 1) levels s = some rest := by
  induction levels with
  | nil => exact reads
  | cons symbols levels hyp =>
    have inner := hyp fun inner member => other inner (.tail _ member)
    have unknown : ":=" ∉ symbols := other symbols List.mem_cons_self
    rw [List.length_cons, ← Nat.add_assoc, operation, inner, Option.bind_eq_bind, Option.bind_some]
    obtain rfl | ⟨rest, rfl⟩ := ends
    · rfl
    · simp [unknown]

theorem comparisonChain_of_factor (reads : factor fuel s = some rest) (ends : Ends rest) :
    comparisonChain (fuel + 8) s = some rest := by
  have operand : operation (fuel + 7) binaryOperators s = some rest :=
    operation_of_factor reads ends binaryOperators (by decide)
  rw [comparisonChain, operand, Option.bind_eq_bind, Option.bind_some]
  obtain rfl | ⟨rest, rfl⟩ := ends <;> simp [comparison?]

theorem disjunction_of_inversion (reads : inversion fuel s = some rest) (ends : Ends rest) :
    disjunction (fuel + 2) s = some rest := by
  rw [disjunction, conjunction, reads]
  obtain rfl | ⟨rest, rfl⟩ := ends <;> rfl

theorem expression_of_inversion (reads : inversion fuel s = some rest) (ends : Ends rest)
    (plain : ∀ rest, s = .keyword "lambda" :: rest → False) :
    expression (fuel + 3) s = some rest := by
  rw [expression, disjunction_of_inversion reads ends]
  · obtain rfl | ⟨rest, rfl⟩ := ends <;> rfl
  · exact plain

/-- A name that a value is assigned to is an expression, without what is assigned. -/
theorem expression_name (rest : List Lexeme) :
    expression (fuel + 15) (.name :: .operator ":=" :: rest) = some (.operator ":=" :: rest) := by
  have ends : Ends (.operator ":=" :: rest) := .inr ⟨rest, rfl⟩
  have read : factor (fuel + 3) (.name :: .operator ":=" :: rest) =
      some (.operator ":=" :: rest) := by
    simp [factor, primary, atom, trailers, expectWord, beginsTrailer, expect]
  have chain : inversion (fuel + 12) (.name :: .operator ":=" :: rest) =
      some (.operator ":=" :: rest) := comparisonChain_of_factor read ends
  exact expression_of_inversion chain ends (by simp)

theorem Consumes.eq_nil (front : Consumes s rest) (last : s.getLast? ≠ some .newline)
    (ended : rest.all (· == .newline) = true) : rest = [] := by
  obtain ⟨used, rfl, -⟩ := front
  obtain rfl | ⟨init, lexeme, rfl⟩ := List.eq_nil_or_concat rest
  · rfl
  · have same : lexeme = .newline := by simp_all
    simp [same] at last

theorem Consumes.getLast? (front : Consumes s rest) (last : s.getLast? ≠ some .newline) :
    rest.getLast? ≠ some .newline := by
  obtain ⟨used, rfl, -⟩ := front
  intro same
  rw [List.getLast?_append, same] at last
  exact last rfl

/-- What comes first in expressions with commas between them. -/
theorem expressions_cases (given : expressions (fuel + 1) s = true)
    (last : s.getLast? ≠ some .newline) :
    ∃ rest, expression fuel s = some rest ∧
      (rest = [] ∨ rest = [.operator ","] ∨ ∃ more, rest = .operator "," :: more ∧
        expressions fuel more = true ∧ more.getLast? ≠ some .newline) := by
  rw [expressions] at given
  cases read : expression fuel s with
  | none => simp [read] at given
  | some rest =>
    refine ⟨rest, rfl, ?_⟩
    have front := ((rulesClose le_rfl).expression s rest read).1
    simp only [read] at given
    cases comma : expect "," rest with
    | none =>
      simp only [comma] at given
      exact .inl (front.eq_nil last given)
    | some more =>
      simp only [comma, Bool.or_eq_true] at given
      have behind := front.trans (expect_consumes comma)
      have whole := eq_of_expect comma
      obtain ended | further := given
      · exact .inr (.inl (by rw [whole, behind.eq_nil last ended]))
      · exact .inr (.inr ⟨more, whole, further, behind.getLast? last⟩)

theorem not_noBeginning (read : expression fuel s = some rest) : ¬NoBeginning s := by
  intro stuck
  rw [stuck.expression] at read
  cases read

/-- What expressions begin with is no beginning of an assignment. -/
theorem namedExpression_close {more : Nat} (read : expression fuel s = some rest)
    (plain : ∀ after, rest ≠ .operator ":=" :: after) (enough : fuel + 16 ≤ more) :
    namedExpression more (s ++ [closer]) = some (rest ++ [closer]) := by
  obtain ⟨more, rfl⟩ : ∃ spare, more = spare + 16 := ⟨more - 16, by omega⟩
  have closed := ((rulesClose (show fuel ≤ more + 15 by omega)).expression s rest read).2
  have unassigned := close_ne_cons (by simp) fun after same => plain after same
  rw [namedExpression, closed]
  · refine Option.filter_some_pos ?_
    cases next : expect ":=" (rest ++ [closer]) with
    | none => simp [nextIs, next]
    | some after => exact absurd (eq_of_expect next) (unassigned after)
  · rintro after same
    rw [same, expression_name] at closed
    exact unassigned after (Option.some.inj closed).symm

theorem item_close {more : Nat} (read : expression fuel s = some rest)
    (plain : ∀ after, rest ≠ .operator ":=" :: after) (enough : fuel + 17 ≤ more) :
    item more (s ++ [closer]) = some (rest ++ [closer]) := by
  obtain ⟨more, rfl⟩ : ∃ spare, more = spare + 1 := ⟨more - 1, by omega⟩
  rw [item, expect_close _ (by decide)]
  cases star : expect "*" s with
  | none => exact namedExpression_close read plain (by omega)
  | some after =>
    exact absurd (.inr ⟨_, after, eq_of_expect star, .inr (.inl rfl)⟩) (not_noBeginning read)

/-- Expressions with commas between them are items in brackets. -/
theorem items_close {more : Nat} (given : expressions fuel s = true)
    (last : s.getLast? ≠ some .newline) (enough : fuel + 18 ≤ more) :
    .newline ∉ s ∧ items more ")" (s ++ [closer]) = some [] := by
  induction fuel generalizing s more with
  | zero => cases given
  | succ fuel hyp =>
    obtain ⟨more, rfl⟩ : ∃ spare, more = spare + 2 := ⟨more - 2, by omega⟩
    obtain ⟨rest, read, follow⟩ := expressions_cases given last
    obtain ⟨used, whole, single⟩ := ((rulesClose le_rfl).expression s rest read).1
    have filled : s ≠ [] := by
      rintro rfl
      exact not_noBeginning read .nil
    have open_ : expect ")" s = none := by
      cases closed : expect ")" s with
      | none => rfl
      | some after =>
        exact absurd (.inr ⟨_, after, eq_of_expect closed, .inl rfl⟩) (not_noBeginning read)
    have plain : ∀ after, rest ≠ .operator ":=" :: after := by
      obtain rfl | rfl | ⟨after, rfl, -⟩ := follow <;> simp
    rw [items, expect_filled filled, open_, Option.map_none]
    simp only [item_close read plain (show fuel + 17 ≤ more + 1 by omega), Option.bind_eq_bind,
      Option.bind_some]
    obtain rfl | rfl | ⟨after, rfl, further, ended⟩ := follow
    · exact ⟨by simpa [whole] using single, rfl⟩
    · exact ⟨by simpa [whole] using single, rfl⟩
    · obtain ⟨alone, closed⟩ := hyp further ended (show fuel + 18 ≤ more + 1 by omega)
      exact ⟨by simpa [whole, alone] using single, closed⟩

/-- Expressions with commas between them are one value in brackets. -/
theorem parenthesized_close {more : Nat} (given : expressions fuel s = true)
    (last : s.getLast? ≠ some .newline) (enough : fuel + 19 ≤ more) :
    .newline ∉ s ∧ parenthesized more (s ++ [closer]) = some [] := by
  obtain ⟨fuel, rfl⟩ : ∃ less, fuel = less + 1 := by
    cases fuel with
    | zero => cases given
    | succ less => exact ⟨less, rfl⟩
  obtain ⟨more, rfl⟩ : ∃ spare, more = spare + 2 := ⟨more - 2, by omega⟩
  obtain ⟨rest, read, follow⟩ := expressions_cases given last
  obtain ⟨used, whole, single⟩ := ((rulesClose le_rfl).expression s rest read).1
  have begins := not_noBeginning read
  have filled : s ≠ [] := by
    rintro rfl
    exact begins .nil
  have plain : ∀ after, rest ≠ .operator ":=" :: after := by
    obtain rfl | rfl | ⟨after, rfl, -⟩ := follow <;> simp
  have open_ : ∀ after, s = closer :: after → False :=
    fun after same => begins (.inr ⟨_, after, same, .inl rfl⟩)
  have starless : ∀ after, s = .operator "*" :: after → False :=
    fun after same => begins (.inr ⟨_, after, same, .inr (.inl rfl)⟩)
  have unyielding : ∀ after, s = .keyword "yield" :: after → False :=
    fun after same => begins (.inr ⟨_, after, same, .inr (.inr rfl)⟩)
  rw [parenthesized]
  · simp only [namedExpression_close read plain (show fuel + 16 ≤ more + 1 by omega),
      Option.bind_eq_bind, Option.bind_some]
    obtain rfl | rfl | ⟨after, rfl, further, ended⟩ := follow
    · exact ⟨by simpa [whole] using single, rfl⟩
    · cases more with
      | zero => omega
      | succ more => exact ⟨by simpa [whole] using single, rfl⟩
    · obtain ⟨alone, closed⟩ := items_close further ended (show fuel + 18 ≤ more by omega)
      exact ⟨by simpa [whole, alone] using single, closed⟩
  · exact close_ne_cons (fun empty => absurd empty filled) open_
  · exact fun after => close_ne_cons (by simp) unyielding (_ :: after)
  · exact fun after => close_ne_cons (by simp) unyielding (_ :: after)
  · exact close_ne_cons (by simp) unyielding
  · exact close_ne_cons (by simp) starless

/-- The negation of expressions, in brackets, is an expression. -/
theorem isExpressions_negated (given : isExpressions s = true)
    (last : s.getLast? ≠ some .newline) :
    .newline ∉ s ∧ isExpressions (.keyword "not" :: .operator "(" :: (s ++ [closer])) = true := by
  have depth : ruleDepth (.keyword "not" :: .operator "(" :: (s ++ [closer])) =
      ruleDepth s + 96 := by
    simp [ruleDepth]
    omega
  obtain ⟨alone, closed⟩ :=
    parenthesized_close given last (show ruleDepth s + 19 ≤ ruleDepth s + 79 by omega)
  refine ⟨alone, ?_⟩
  have value : atom (ruleDepth s + 80) (.operator "(" :: (s ++ [closer])) = some [] := by
    rw [atom, closed]
  have operand : factor (ruleDepth s + 82) (.operator "(" :: (s ++ [closer])) = some [] := by
    rw [factor, primary]
    · simp only [expectWord, Option.getD_none, value, Option.bind_eq_bind, Option.bind_some]
      rfl
    all_goals simp
  have negated : inversion (ruleDepth s + 92) (.keyword "not" :: .operator "(" :: (s ++ [closer])) =
      some [] := by
    rw [inversion, expectWord, if_pos rfl]
    simp only [inversion, expectWord]
    exact comparisonChain_of_factor operand (.inl rfl)
  rw [isExpressions, depth, expressions, expression_of_inversion negated (.inl rfl) (by simp)]
  rfl

/-! Literals. -/

theorem literalsAgree_close (lexemes : List Lexeme) :
    literalsAgree (lexemes ++ [closer]) = literalsAgree lexemes := by
  fun_induction literalsAgree lexemes with
  | case1 a b rest hyp =>
    rw [← hyp]
    rfl
  | case2 lexeme rest apart hyp =>
    rw [List.cons_append, literalsAgree, hyp]
    rintro a b after rfl
    exact close_ne_cons (by simp) (fun after => apart a b after rfl) after
  | case3 => rfl

theorem literalsValid_succ {depth : Nat} {lexemes : List Lexeme}
    (valid : literalsValid depth lexemes = true) : literalsValid (depth + 1) lexemes = true := by
  induction depth generalizing lexemes with
  | zero => cases valid
  | succ depth hyp =>
    rw [literalsValid, Bool.and_eq_true, List.all_eq_true] at valid ⊢
    refine ⟨valid.1, fun lexeme member => ?_⟩
    have own := valid.2 lexeme member
    cases lexeme with
    | string literal =>
      cases known : literal.expressions? with
      | none => simp [known] at own
      | some fields =>
        simp only [known, List.all_eq_true] at own ⊢
        intro field inside
        have whole := own field inside
        cases read : lex ('(' :: field ++ [')']) with
        | none =>
          rw [read] at whole
          cases whole
        | some inner =>
          simp only [read, Bool.and_eq_true] at whole ⊢
          exact ⟨hyp whole.1, whole.2⟩
    | _ => rfl

theorem literalsValid_le {depth more : Nat} {lexemes : List Lexeme}
    (valid : literalsValid depth lexemes = true) (enough : depth ≤ more) :
    literalsValid more lexemes = true := by
  induction enough with
  | refl => exact valid
  | step _ hyp => exact literalsValid_succ hyp

theorem literalsValid_negated {depth : Nat} {lexemes : List Lexeme}
    (valid : literalsValid depth lexemes = true) :
    literalsValid depth (.keyword "not" :: .operator "(" :: (lexemes ++ [closer])) = true := by
  cases depth with
  | zero => cases valid
  | succ depth =>
    rw [literalsValid, Bool.and_eq_true] at valid ⊢
    refine ⟨?_, ?_⟩
    · rw [literalsAgree, literalsAgree, literalsAgree_close]
      · exact valid.1
      · simp
      · simp
    · rw [List.all_cons, List.all_cons, List.all_append, valid.2]
      rfl

/-! Texts. -/

variable {text : String}

theorem source?_negated (text : String) :
    source? ("not (" ++ text ++ ")") = some (negated (Text.normalizeLineEnds text.toList)) := by
  have whole : ("not (" ++ text ++ ")").toList = negated text.toList := by
    simp [negated]
  have around : Text.IsTrimmed Text.isBlank (negated text.toList) := by
    refine ⟨?_, fun c last => ?_⟩
    · rintro c ⟨⟩
      decide
    · rw [negated, ← List.cons_append, ← List.cons_append, ← List.cons_append,
        ← List.cons_append, ← List.cons_append, List.getLast?_concat] at last
      cases last
      decide
  have lines : Text.normalizeLineEnds (negated text.toList) =
      negated (Text.normalizeLineEnds text.toList) := by
    have front {c : Char} (other : c ≠ '\r') := Text.normalizeLineEnds_cons other
    rw [negated, front (by decide), front (by decide), front (by decide), front (by decide),
      front (by decide), Text.normalizeLineEnds_append _ (by decide), front (by decide)]
    rfl
  rw [source?, whole, around.trim_eq, lines]
  rfl

theorem getLast?_normalizeLineEnds {s : List Char} (trimmed : Text.IsTrimmed Text.isBlank s) :
    ∀ c, (Text.normalizeLineEnds s).getLast? = some c → Text.isBlank c = false := by
  intro c last
  obtain rfl | ⟨init, d, rfl⟩ := List.eq_nil_or_concat s
  · cases last
  · rw [List.concat_eq_append] at trimmed last
    have kept : Text.isBlank d = false := trimmed.last d (by simp)
    have other : d ≠ '\n' ∧ d ≠ '\r' := by
      constructor <;> rintro rfl <;> cases kept
    rw [Text.normalizeLineEnds_append init other.1, Text.normalizeLineEnds_cons other.2,
      Text.normalizeLineEnds, List.getLast?_concat] at last
    cases last
    exact kept

/-- What is read of a text without blanks around it does not end with a blank. -/
theorem getLast?_source? {s : List Char} (trimmed : Text.IsTrimmed Text.isBlank text.toList)
    (source : source? text = some s) :
    ∀ c, s.getLast? = some c → c ∉ [' ', '\t', '\x0c', '\n'] := by
  intro c last blank
  rw [source?, trimmed.trim_eq] at source
  obtain ⟨front, whole⟩ := firstLine_suffix source
  have kept := getLast?_normalizeLineEnds trimmed c (by
    rw [← whole, List.getLast?_append, last]
    rfl)
  simp only [List.mem_cons, List.not_mem_nil, or_false] at blank
  obtain rfl | rfl | rfl | rfl := blank <;> cases kept

theorem isExpressions_ne_nil {lexemes : List Lexeme} (given : isExpressions lexemes = true) :
    lexemes ≠ [] := by
  rintro rfl
  rw [isExpressions, ruleDepth, List.length_nil, Nat.mul_add, expressions,
    NoBeginning.nil.expression] at given
  cases given

theorem isValid_eq_true_iff :
    isValid text = true ↔ ∃ s lexemes, source? text = some s ∧ lex s = some lexemes ∧
      literalsValid (s.length + 1) lexemes = true ∧ isExpressions lexemes = true := by
  unfold isValid
  split
  · simp_all
  · split <;> simp_all

/-- The lexemes of a negation are those of what is negated, in brackets behind "not". -/
theorem lex_negated_eq_some_iff {s t : List Char} {lexemes inner : List Lexeme}
    (first : firstLine false false false t = some s) (filled : s ≠ [])
    (reads : lex s = some lexemes) :
    lex (negated t) = some inner ↔
      (¬EndsInComment [] s ∧ deepest 0 lexemes < greatestDepth) ∧
        inner = .keyword "not" :: .operator "(" :: (lexemes.filter (· ≠ .newline) ++ [closer]) := by
  have room : ([] : List Char).length < greatestDepth := by decide
  rw [lex_negated first filled]
  by_cases last : EndsInComment [] s
  · have swallowed := lexFrom_close_comment last room (s.length + 2)
    rw [List.nil_append] at swallowed
    simp [swallowed, last]
  · have closed := lexFrom_close reads last room (Nat.lt_succ_self _)
    rw [List.nil_append] at closed
    rw [closed]
    by_cases shallow : deepest 0 lexemes < greatestDepth
    · simp [last, shallow, eq_comm]
    · simp [shallow]

/-- The negation of an expression, with brackets around it, is an expression unless a comment takes
the closing bracket or the brackets are nested too deep. -/
theorem isValid_negated_iff (valid : isValid text = true)
    (trimmed : Text.IsTrimmed Text.isBlank text.toList) :
    ∃ s lexemes, source? text = some s ∧ lex s = some lexemes ∧
      (isValid ("not (" ++ text ++ ")") = true ↔
        ¬EndsInComment [] s ∧ deepest 0 lexemes < greatestDepth) := by
  obtain ⟨s, lexemes, source, reads, literals, expressions⟩ := isValid_eq_true_iff.mp valid
  have first := source
  rw [source?, trimmed.trim_eq] at first
  have filled : s ≠ [] := by
    rintro rfl
    cases reads
    exact isExpressions_ne_nil expressions rfl
  refine ⟨s, lexemes, source, reads, ?_⟩
  rw [isValid_eq_true_iff]
  constructor
  · rintro ⟨t, inner, negation, read, -⟩
    cases (source?_negated text).symm.trans negation
    exact ((lex_negated_eq_some_iff first filled reads).mp read).1
  · rintro ⟨last, shallow⟩
    obtain ⟨final, lexemeEnds, other⟩ :=
      exists_last reads last filled (getLast?_source? trimmed source)
    have ended : lexemes.getLast? ≠ some .newline := by
      rw [lexemeEnds]
      exact fun same => other (Option.some.inj same)
    obtain ⟨single, negation⟩ := isExpressions_negated expressions ended
    have kept : lexemes.filter (· ≠ .newline) = lexemes :=
      List.filter_eq_self.mpr fun lexeme member =>
        decide_eq_true fun same => single (same ▸ member)
    have short : s.length + 1 ≤ (negated (Text.normalizeLineEnds text.toList)).length + 1 := by
      have := (firstLine_suffix first).length_le
      simp [negated]
      omega
    refine ⟨_, _, source?_negated text,
      (lex_negated_eq_some_iff first filled reads).mpr ⟨⟨last, shallow⟩, rfl⟩, ?_, ?_⟩
    · rw [kept]
      exact literalsValid_negated (literalsValid_le literals short)
    · rw [kept]
      exact negation

end OptionProtocol.Expression
