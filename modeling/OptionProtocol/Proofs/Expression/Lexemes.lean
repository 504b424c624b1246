import Mathlib.Data.List.Find
import Mathlib.Data.List.TakeWhile
import OptionProtocol.Expression.Lexer
import OptionProtocol.Proofs.Expression.Numerals

/-! Lexemes at the end of a bracket. What is left of a text behind its first lexeme is its end, and
a closing bracket that follows the text leaves the lexeme as it is. -/

set_option autoImplicit false

namespace OptionProtocol.Expression

variable {s body rest : List Char} {quote : Char} {lexeme : Lexeme}

/-! String literals. They are closed by their own quotes, whatever follows. -/

theorem shortBody_cons {c : Char} (plain : c ≠ '\\') (more : List Char) :
    shortBody quote (c :: more) =
      if c = quote then some ([], more)
      else if c = '\n' then none
      else (shortBody quote more).map fun (body, rest) => (c :: body, rest) := by
  rw [shortBody]
  exact fun _ _ same => absurd same plain

theorem shortBody_eq (reads : shortBody quote s = some (body, rest)) :
    s = body ++ quote :: rest := by
  fun_induction shortBody quote s generalizing body rest with
  | case1 => cases reads
  | case2 c more ih =>
    obtain ⟨⟨inner, behind⟩, within, same⟩ := Option.map_eq_some_iff.mp reads
    cases same
    rw [ih within]
    rfl
  | case3 more escape => cases reads; rfl
  | case4 => cases reads
  | case5 c more escape other single ih =>
    obtain ⟨⟨inner, behind⟩, within, same⟩ := Option.map_eq_some_iff.mp reads
    cases same
    rw [ih within]
    rfl

theorem shortBody_append (mark : quote ≠ '\\') (more : List Char)
    (reads : shortBody quote s = some (body, rest)) :
    shortBody quote (s ++ more) = some (body, rest ++ more) := by
  fun_induction shortBody quote s generalizing body rest with
  | case1 => cases reads
  | case2 c after ih =>
    obtain ⟨⟨inner, behind⟩, within, same⟩ := Option.map_eq_some_iff.mp reads
    cases same
    simp [shortBody, ih within]
  | case3 after escape =>
    cases reads
    simp [shortBody_cons mark]
  | case4 => cases reads
  | case5 c after escape other single ih =>
    obtain ⟨⟨inner, behind⟩, within, same⟩ := Option.map_eq_some_iff.mp reads
    cases same
    have plain : c ≠ '\\' := by
      rintro rfl
      cases after with
      | nil => cases within
      | cons d after => exact escape d after rfl rfl
    simp [shortBody_cons plain, other, single, ih within]

theorem longBody_cons {c : Char} (plain : c ≠ '\\') (other : c ≠ quote) (more : List Char) :
    longBody quote (c :: more) =
      (longBody quote more).map fun (body, rest) => (c :: body, rest) := by
  match more with
  | [] | [a] | a :: b :: after => simp [longBody, plain, other]

theorem longBody_quotes (mark : quote ≠ '\\') (after : List Char) :
    longBody quote (quote :: quote :: quote :: after) = some ([], after) := by
  simp [longBody, mark]

/-- Fewer than three quotes do not close a long literal. -/
theorem longBody_quote (mark : quote ≠ '\\') {a b : Char} (open_ : ¬(a = quote ∧ b = quote))
    (after : List Char) :
    longBody quote (quote :: a :: b :: after) =
      (longBody quote (a :: b :: after)).map fun (body, rest) => (quote :: body, rest) := by
  rw [longBody]
  · simp [open_]
  · exact fun _ _ same => absurd same mark

theorem longBody_eq (reads : longBody quote s = some (body, rest)) :
    s = body ++ quote :: quote :: quote :: rest := by
  fun_induction longBody quote s generalizing body rest with
  | case1 => cases reads
  | case2 c more ih =>
    obtain ⟨⟨inner, behind⟩, within, same⟩ := Option.map_eq_some_iff.mp reads
    cases same
    rw [ih within]
    rfl
  | case3 a b after closed =>
    obtain ⟨rfl, rfl⟩ := closed
    cases reads
    rfl
  | case4 a b after closed escape ih =>
    obtain ⟨⟨inner, behind⟩, within, same⟩ := Option.map_eq_some_iff.mp reads
    cases same
    rw [ih within]
    rfl
  | case5 => cases reads
  | case6 c more escape other ih =>
    obtain ⟨⟨inner, behind⟩, within, same⟩ := Option.map_eq_some_iff.mp reads
    cases same
    rw [ih within]
    rfl

theorem longBody_append (mark : quote ≠ '\\') (more : List Char)
    (reads : longBody quote s = some (body, rest)) :
    longBody quote (s ++ more) = some (body, rest ++ more) := by
  fun_induction longBody quote s generalizing body rest with
  | case1 => cases reads
  | case2 c after ih =>
    obtain ⟨⟨inner, behind⟩, within, same⟩ := Option.map_eq_some_iff.mp reads
    cases same
    simp [longBody, ih within]
  | case3 a b after closed =>
    obtain ⟨rfl, rfl⟩ := closed
    cases reads
    exact longBody_quotes mark _
  | case4 a b after closed escape ih =>
    obtain ⟨⟨inner, behind⟩, within, same⟩ := Option.map_eq_some_iff.mp reads
    cases same
    have inside := ih within
    rw [List.cons_append, List.cons_append] at inside ⊢
    rw [List.cons_append, longBody_quote mark closed, inside]
    rfl
  | case5 => cases reads
  | case6 c after escape other ih =>
    obtain ⟨⟨inner, behind⟩, within, same⟩ := Option.map_eq_some_iff.mp reads
    cases same
    have plain : c ≠ '\\' := by
      rintro rfl
      cases after with
      | nil => cases within
      | cons d after => exact escape d after rfl rfl
    rw [List.cons_append, longBody_cons plain other, ih within]
    rfl

theorem stringBody_suffix (reads : stringBody quote s = some (body, rest)) : rest <:+ s := by
  unfold stringBody at reads
  split at reads
  · rename_i a b after
    split at reads
    · rw [longBody_eq reads]
      exact ⟨a :: b :: body ++ [quote, quote, quote], by simp⟩
    · split at reads
      · cases reads
        exact List.suffix_cons a (b :: after)
      · rw [shortBody_eq reads]
        exact ⟨body ++ [quote], by simp⟩
  · rw [shortBody_eq reads]
    exact ⟨body ++ [quote], by simp⟩

theorem stringBody_close (mark : isQuote quote = true)
    (reads : stringBody quote s = some (body, rest)) :
    stringBody quote (s ++ [')']) = some (body, rest ++ [')']) := by
  have plain : quote ≠ '\\' := by rintro rfl; cases mark
  have bracket : ')' ≠ quote := by rintro rfl; cases mark
  match s with
  | [] => cases reads
  | [a] =>
    simp only [stringBody] at reads
    by_cases closed : a = quote
    · subst closed
      rw [shortBody_cons plain, if_pos rfl] at reads
      cases reads
      simp [stringBody, bracket]
    · simpa [stringBody, closed] using shortBody_append plain [')'] reads
  | a :: b :: after =>
    simp only [List.cons_append, stringBody] at reads ⊢
    split at reads
    · rename_i long
      rw [if_pos long]
      exact longBody_append plain _ reads
    · rename_i short
      rw [if_neg short]
      split at reads
      · rename_i empty
        cases reads
        rw [if_pos empty]
        rfl
      · rename_i filled
        rw [if_neg filled]
        exact shortBody_append plain _ reads

/-! The letters before a literal. -/

theorem length_le_of_literalOfLetters? {letters : List Char} {literal : StringLiteral}
    (known : literalOfLetters? letters = some literal) : letters.length ≤ 2 := by
  match letters with
  | [] | [_] | [_, _] => simp
  | _ :: _ :: _ :: _ => simp [literalOfLetters?] at known

theorem stringStart?_eq_some_iff {literal : StringLiteral} {inside : List Char} :
    stringStart? s = some (literal, quote, inside) ↔
      ∃ letters, s = letters ++ quote :: inside ∧ isQuote quote = true ∧
        (∀ c ∈ letters, isQuote c = false) ∧ literalOfLetters? letters = some literal := by
  constructor
  · intro starts
    have whole := List.prefix_iff_eq_append.mp
      ((List.takeWhile_prefix fun c => !isQuote c).trans (List.take_prefix 3 s))
    simp only [stringStart?] at starts
    split at starts
    · rename_i mark after begun
      split at starts
      · rename_i quoted
        obtain ⟨kind, known, same⟩ := Option.map_eq_some_iff.mp starts
        cases same
        rw [begun] at whole
        refine ⟨_, whole.symm, quoted, fun c member => ?_, known⟩
        simpa using List.mem_takeWhile_imp member
      · cases starts
    · cases starts
  · rintro ⟨letters, rfl, mark, plain, known⟩
    have short := length_le_of_literalOfLetters? known
    obtain ⟨room, sum⟩ : ∃ room, 3 - letters.length = room + 1 := ⟨2 - letters.length, by omega⟩
    have begun : ((letters ++ quote :: inside).take 3).takeWhile (fun c => !isQuote c) =
        letters := by
      rw [List.take_append, List.take_of_length_le (by omega), sum, List.take_succ_cons,
        List.takeWhile_append_of_pos (by simpa using plain),
        List.takeWhile_cons_of_neg (by simp [mark]), List.append_nil]
    simp [stringStart?, begun, mark, known]

/-- A closing bracket neither begins a literal nor is a part of its beginning. -/
theorem stringStart?_close (s : List Char) :
    stringStart? (s ++ [')']) =
      (stringStart? s).map fun (literal, quote, inside) => (literal, quote, inside ++ [')']) := by
  apply Option.ext
  rintro ⟨literal, quote, inside⟩
  simp only [Option.map_eq_some_iff, Prod.exists, Prod.mk.injEq, stringStart?_eq_some_iff]
  constructor
  · rintro ⟨letters, whole, mark, plain, known⟩
    obtain rfl | ⟨within, last, rfl⟩ := List.eq_nil_or_concat inside
    · have same := (List.append_inj' whole rfl).2
      cases same
      cases mark
    · rw [List.concat_eq_append, ← List.cons_append, ← List.append_assoc] at whole
      obtain ⟨front, same⟩ := List.append_inj' whole rfl
      cases same
      exact ⟨literal, quote, within, ⟨letters, front, mark, plain, known⟩, rfl, rfl,
        List.concat_eq_append.symm⟩
  · rintro ⟨_, _, within, ⟨letters, rfl, mark, plain, known⟩, rfl, rfl, rfl⟩
    exact ⟨letters, by simp, mark, plain, known⟩

theorem readString_close {literal : StringLiteral} (mark : isQuote quote = true)
    (reads : readString literal quote s = some (lexeme, rest)) :
    readString literal quote (s ++ [')']) = some (lexeme, rest ++ [')']) := by
  obtain ⟨⟨body, after⟩, within, same⟩ := Option.map_eq_some_iff.mp reads
  cases same
  rw [readString, stringBody_close mark within]
  rfl

/-! Words and operators. -/

theorem readWord_close (s : List Char) :
    readWord (s ++ [')']) = (readWord s).map fun (lexeme, rest) => (lexeme, rest ++ [')']) := by
  have word : (s ++ [')']).takeWhile isWordChar = s.takeWhile isWordChar := by
    rw [List.takeWhile_append]
    split
    · rename_i all
      rw [(List.takeWhile_prefix isWordChar).eq_of_length all]
      simp [isWordChar]
    · rfl
  have short : (s.takeWhile isWordChar).length ≤ s.length :=
    (List.takeWhile_prefix isWordChar).length_le
  rw [readWord, readWord, word, List.drop_append_of_le_length short, Option.map_map]
  rfl

theorem isPrefixOf_close {symbol : String} (known : symbol ∈ operators) (c : Char)
    (s : List Char) :
    symbol.toList.isPrefixOf (c :: s ++ [')']) = symbol.toList.isPrefixOf (c :: s) := by
  have cases : ∀ symbol ∈ operators, ')' ∉ symbol.toList ∨ symbol = ")" := by decide
  obtain other | rfl := cases symbol known
  · exact isPrefixOf_concat other (c :: s)
  · simp [List.isPrefixOf]

theorem readOperator_close (c : Char) (s : List Char) :
    readOperator (c :: s ++ [')']) =
      (readOperator (c :: s)).map fun (lexeme, rest) => (lexeme, rest ++ [')']) := by
  have found : (operators.find? fun symbol => symbol.toList.isPrefixOf (c :: s ++ [')'])) =
      operators.find? fun symbol => symbol.toList.isPrefixOf (c :: s) :=
    List.find?_congr fun symbol known => isPrefixOf_close known c s
  rw [readOperator, readOperator, found, Option.map_map]
  cases first : operators.find? fun symbol => symbol.toList.isPrefixOf (c :: s) with
  | none => rfl
  | some symbol =>
    have starts : symbol.toList <+: c :: s := by simpa using List.find?_some first
    have short : symbol.length ≤ (c :: s).length := String.length_toList ▸ starts.length_le
    simp only [Option.map_some, Function.comp_apply]
    rw [List.drop_append_of_le_length short]

theorem readOperator_suffix {c : Char} (reads : readOperator (c :: s) = some (lexeme, rest)) :
    rest <:+ s := by
  have filled : ∀ symbol ∈ operators, symbol.length ≠ 0 := by decide
  obtain ⟨symbol, first, same⟩ := Option.map_eq_some_iff.mp reads
  obtain ⟨more, length⟩ := Nat.exists_eq_succ_of_ne_zero
    (filled symbol (List.mem_of_find?_eq_some first))
  cases same
  rw [length]
  exact List.drop_suffix more s

theorem readWord_suffix {c : Char} (word : beginsWord (c :: s) = true)
    (reads : readWord (c :: s) = some (lexeme, rest)) : rest <:+ s := by
  obtain ⟨_, -, same⟩ := Option.map_eq_some_iff.mp reads
  cases same
  rw [List.takeWhile_cons_of_pos (show isWordChar c = true from word)]
  exact List.drop_suffix _ s

theorem readString_suffix {literal kind : StringLiteral} {c : Char} {inside : List Char}
    (starts : stringStart? (c :: s) = some (kind, quote, inside))
    (reads : readString literal quote inside = some (lexeme, rest)) : rest <:+ s := by
  obtain ⟨⟨body, after⟩, within, same⟩ := Option.map_eq_some_iff.mp reads
  cases same
  refine (stringBody_suffix within).trans ?_
  obtain ⟨letters, whole, -⟩ := stringStart?_eq_some_iff.mp starts
  cases letters with
  | nil => exact (List.cons.inj whole).2 ▸ List.suffix_rfl
  | cons d letters => exact ⟨letters ++ [quote], by simp [(List.cons.inj whole).2]⟩

theorem beginsNumeral_close (c : Char) (s : List Char) :
    beginsNumeral (c :: s ++ [')']) = beginsNumeral (c :: s) := by
  cases s <;> rfl

/-! All lexemes. -/

theorem readLexeme_close {c : Char} (reads : readLexeme (c :: s) = some (lexeme, rest)) :
    readLexeme (c :: s ++ [')']) = some (lexeme, rest ++ [')']) := by
  unfold readLexeme at reads ⊢
  rw [stringStart?_close]
  cases starts : stringStart? (c :: s) with
  | some start =>
    obtain ⟨literal, quote, inside⟩ := start
    simp only [starts, Option.map_some] at reads ⊢
    obtain ⟨-, -, mark, -⟩ := stringStart?_eq_some_iff.mp starts
    exact readString_close mark reads
  | none =>
    simp only [starts, Option.map_none, beginsNumeral_close] at reads ⊢
    split at reads
    · rename_i digit
      obtain ⟨after, number, same⟩ := Option.map_eq_some_iff.mp reads
      cases same
      rw [if_pos digit, List.cons_append, numeral_close, number]
      rfl
    · rename_i other
      rw [if_neg other]
      split at reads
      · rename_i word
        rw [if_pos (show beginsWord (c :: s ++ [')']) = true from word), readWord_close, reads]
        rfl
      · rename_i symbol
        rw [if_neg (show ¬beginsWord (c :: s ++ [')']) = true from symbol), readOperator_close,
          reads]
        rfl

theorem readLexeme_suffix {c : Char} (reads : readLexeme (c :: s) = some (lexeme, rest)) :
    rest <:+ s := by
  unfold readLexeme at reads
  split at reads
  · rename_i starts
    exact readString_suffix starts reads
  · split at reads
    · obtain ⟨after, number, same⟩ := Option.map_eq_some_iff.mp reads
      cases same
      exact numeral_suffix number
    · split at reads
      · rename_i word
        exact readWord_suffix word reads
      · exact readOperator_suffix reads

theorem wordLexeme_ne_newline {word : List Char} : wordLexeme word ≠ some .newline := by
  unfold wordLexeme
  dsimp only
  split
  · simp
  · split <;> simp

/-- Line ends outside brackets are no lexemes that are read. -/
theorem readLexeme_ne_newline {c : Char} (reads : readLexeme (c :: s) = some (lexeme, rest)) :
    lexeme ≠ .newline := by
  rintro rfl
  unfold readLexeme at reads
  split at reads
  · obtain ⟨_, -, same⟩ := Option.map_eq_some_iff.mp reads
    cases same
  · split at reads
    · obtain ⟨_, -, same⟩ := Option.map_eq_some_iff.mp reads
      cases same
    · split at reads
      · obtain ⟨word, known, same⟩ := Option.map_eq_some_iff.mp reads
        rw [(Prod.mk.inj same).1] at known
        exact wordLexeme_ne_newline known
      · obtain ⟨_, -, same⟩ := Option.map_eq_some_iff.mp reads
        cases same

end OptionProtocol.Expression
