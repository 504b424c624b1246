import Mathlib.Algebra.Ring.Nat
import OptionProtocol.Proofs.Expression.TextValue
import OptionProtocol.Proofs.Text.PhysicalLines
import OptionProtocol.Text.Quoted

/-! Quoted texts read back. A quoted text is one line of characters that print, and as a literal it
stands for the text it was made from. -/

set_option autoImplicit false

namespace OptionProtocol.Text

open Expression (hexNumber isHexDigit numberedChar? escape? unescaped shortBody literalText?)

variable {s : List Char} {c mark : Char}

/-! Numbers of characters. -/

theorem length_hexDigits (width n : Nat) : (hexDigits width n).length = width := by
  induction width generalizing n with
  | zero => rfl
  | succ width ih => simp [hexDigits, ih]

theorem forall_hexDigits {property : Char → Prop} (digit : ∀ n < 16, property (hexDigit n))
    (width n : Nat) : ∀ d ∈ hexDigits width n, property d := by
  induction width generalizing n with
  | zero => simp [hexDigits]
  | succ width ih =>
    intro d member
    obtain front | last := List.mem_append.mp member
    · exact ih _ d front
    · rw [List.mem_singleton.mp last]
      exact digit _ (Nat.mod_lt n (by decide))

theorem hexNumber_append (digits : List Char) {n : Nat} (small : n < 16) :
    hexNumber (digits ++ [hexDigit n]) = hexNumber digits * 16 + n := by
  have value : ∀ n < 16, (if (hexDigit n).isDigit then (hexDigit n).toNat - 0x30
      else (hexDigit n).toLower.toNat - 0x57) = n := by
    decide
  rw [hexNumber, List.foldl_append, List.foldl_cons, List.foldl_nil, value n small]
  rfl

theorem hexNumber_hexDigits (width n : Nat) : hexNumber (hexDigits width n) = n % 16 ^ width := by
  induction width generalizing n with
  | zero => simp [hexDigits, hexNumber, Nat.mod_one]
  | succ width ih =>
    rw [hexDigits, hexNumber_append _ (Nat.mod_lt n (by decide)), ih, Nat.pow_succ,
      Nat.mul_comm (16 ^ width), Nat.mod_mul, Nat.mul_comm, Nat.add_comm]

/-- A character is found again by its number. -/
theorem numberedChar?_hexDigits {width : Nat} (fits : c.toNat < 16 ^ width) (rest : List Char) :
    numberedChar? width (hexDigits width c.toNat ++ rest) = some c := by
  have front : (hexDigits width c.toNat ++ rest).take width = hexDigits width c.toNat := by
    rw [List.take_append_of_le_length (by rw [length_hexDigits]),
      List.take_of_length_le (by rw [length_hexDigits])]
  have number : hexNumber (hexDigits width c.toNat) = c.toNat := by
    rw [hexNumber_hexDigits, Nat.mod_eq_of_lt fits]
  have digits : Expression.beginsWithHex width (hexDigits width c.toNat ++ rest) = true := by
    rw [Expression.beginsWithHex, front, List.length_append, length_hexDigits, Bool.and_eq_true]
    exact ⟨decide_eq_true (Nat.le_add_right width _),
      List.all_eq_true.mpr (forall_hexDigits (by decide) width _)⟩
  rw [numberedChar?, front, number, if_pos ⟨digits, c.valid⟩, Char.ofNat_toNat]

/-! Single characters. -/

def IsMark (c : Char) : Prop := c = '\'' ∨ c = '"'

/-- How a character can stand in a literal. -/
inductive Spelling (mark c : Char) : List Char → Prop where
  | escaped (special : c = mark ∨ c = '\\') : Spelling mark c ['\\', c]
  | tab (same : c = '\t') : Spelling mark c ['\\', 't']
  | lineFeed (same : c = '\n') : Spelling mark c ['\\', 'n']
  | carriageReturn (same : c = '\r') : Spelling mark c ['\\', 'r']
  | plain (unmarked : c ≠ mark) (single : c ≠ '\\') (printable : isPrintable c = true) :
      Spelling mark c [c]
  | numbered {kind : Char} {width : Nat}
      (known : (kind, width) ∈ [('x', 2), ('u', 4), ('U', 8)]) (fits : c.toNat < 16 ^ width) :
      Spelling mark c ('\\' :: kind :: hexDigits width c.toNat)

theorem quotedChar_spelling (mark c : Char) : Spelling mark c (quotedChar mark c) := by
  unfold quotedChar
  split_ifs with special tab line return_ printable short medium
  · exact .escaped special
  · exact .tab tab
  · exact .lineFeed line
  · exact .carriageReturn return_
  · rw [not_or] at special
    exact .plain special.1 special.2 printable
  · exact .numbered (by simp) short
  · exact .numbered (by simp) medium
  · exact .numbered (by simp) c.val.toNat_lt

namespace Spelling

variable {spelled : List Char}

theorem unescaped (spelling : Spelling mark c spelled) (quote : IsMark mark) (rest : List Char) :
    unescaped (spelled ++ rest) = (unescaped rest).map (c :: ·) := by
  cases spelling with
  | escaped special =>
    refine Expression.unescaped_pair ?_
    obtain rfl | rfl := special
    · obtain rfl | rfl := quote <;> rfl
    · rfl
  | tab same => subst same; exact Expression.unescaped_pair rfl
  | lineFeed same => subst same; exact Expression.unescaped_pair rfl
  | carriageReturn same => subst same; exact Expression.unescaped_pair rfl
  | plain unmarked single printable => exact Expression.unescaped_cons single rest
  | numbered known fits =>
    rename_i kind width
    have number := numberedChar?_hexDigits fits rest
    have read : escape? (kind :: (hexDigits width c.toNat ++ rest)) = some ([c], width + 1) := by
      simp only [List.mem_cons, Prod.mk.injEq, List.not_mem_nil, or_false] at known
      obtain ⟨rfl, rfl⟩ | ⟨rfl, rfl⟩ | ⟨rfl, rfl⟩ := known <;>
        simp [escape?, number, Expression.isOctalDigit]
    rw [List.cons_append, List.cons_append, Expression.unescaped_escape read, List.drop_succ_cons,
      List.drop_append_of_le_length (length_hexDigits width _).ge,
      List.drop_of_length_le (length_hexDigits width _).le]
    rfl

theorem shortBody (spelling : Spelling mark c spelled) (quote : IsMark mark) (rest : List Char) :
    shortBody mark (spelled ++ rest) =
      (shortBody mark rest).map fun (body, after) => (spelled ++ body, after) := by
  cases spelling with
  | escaped special => rfl
  | tab same => rfl
  | lineFeed same => rfl
  | carriageReturn same => rfl
  | plain unmarked single printable =>
    have line : c ≠ '\n' := by
      rintro rfl
      cases printable
    rw [List.singleton_append, Expression.shortBody_cons single, if_neg unmarked, if_neg line]
    rfl
  | numbered known fits =>
    rename_i kind width
    have digits : ∀ d ∈ hexDigits width c.toNat, d ≠ mark ∧ d ≠ '\\' ∧ d ≠ '\n' := by
      obtain rfl | rfl := quote <;> exact forall_hexDigits (by decide) width _
    rw [List.cons_append, List.cons_append, Expression.shortBody_escape,
      Expression.shortBody_plain digits, Option.map_map]
    rfl

theorem printable (spelling : Spelling mark c spelled) (quote : IsMark mark) :
    ∀ d ∈ spelled, isPrintable d = true := by
  have marked : isPrintable mark = true := by
    obtain rfl | rfl := quote <;> decide
  have escape : isPrintable '\\' = true := by decide
  have pair {d : Char} (own : isPrintable d = true) : ∀ e ∈ ['\\', d], isPrintable e = true := by
    simp [own, escape]
  cases spelling with
  | escaped special =>
    obtain rfl | rfl := special
    · exact pair marked
    · exact pair escape
  | tab same => exact pair (by decide)
  | lineFeed same => exact pair (by decide)
  | carriageReturn same => exact pair (by decide)
  | plain unmarked single printable => simpa using printable
  | numbered known fits =>
    have kinds : ∀ form ∈ [('x', 2), ('u', 4), ('U', 8)], isPrintable form.1 = true := by decide
    rename_i kind width
    have digits : ∀ d ∈ hexDigits width c.toNat, isPrintable d = true :=
      forall_hexDigits (by decide) width _
    have letter : isPrintable kind = true := kinds (kind, width) known
    simpa [escape, letter] using digits

theorem exists_cons (spelling : Spelling mark c spelled) (quote : IsMark mark) :
    ∃ d more, spelled = d :: more ∧ d ≠ mark := by
  have other : '\\' ≠ mark := by
    obtain rfl | rfl := quote <;> decide
  cases spelling with
  | plain unmarked single printable => exact ⟨c, [], rfl, unmarked⟩
  | _ => exact ⟨_, _, rfl, other⟩

end Spelling

/-! Whole texts. -/

theorem isMark_quoteMark (s : List Char) : IsMark (quoteMark s) := by
  unfold quoteMark
  split
  · exact .inr rfl
  · exact .inl rfl

theorem unescaped_flatMap (quote : IsMark mark) (s : List Char) :
    unescaped (s.flatMap (quotedChar mark)) = some s := by
  induction s with
  | nil => rfl
  | cons c s hyp =>
    rw [List.flatMap_cons, (quotedChar_spelling mark c).unescaped quote, hyp]
    rfl

theorem shortBody_flatMap (quote : IsMark mark) (s : List Char) :
    shortBody mark (s.flatMap (quotedChar mark) ++ [mark]) =
      some (s.flatMap (quotedChar mark), []) := by
  induction s with
  | nil =>
    have plain : mark ≠ '\\' := by
      obtain rfl | rfl := quote <;> decide
    rw [List.flatMap_nil, List.nil_append, Expression.shortBody_cons plain, if_pos rfl]
  | cons c s hyp =>
    rw [List.flatMap_cons, List.append_assoc, (quotedChar_spelling mark c).shortBody quote, hyp]
    rfl

/-- Only the empty text begins with two quotes, and nothing follows those. -/
theorem stringBody_flatMap (quote : IsMark mark) (s : List Char) :
    Expression.stringBody mark (s.flatMap (quotedChar mark) ++ [mark]) =
      some (s.flatMap (quotedChar mark), []) := by
  cases s with
  | nil => exact shortBody_flatMap quote []
  | cons c s =>
    have body := shortBody_flatMap quote (c :: s)
    obtain ⟨d, more, spelled, other⟩ := (quotedChar_spelling mark c).exists_cons quote
    obtain ⟨e, rest, two⟩ : ∃ e rest, more ++ (s.flatMap (quotedChar mark) ++ [mark]) = e :: rest :=
      List.exists_cons_of_ne_nil (by simp)
    rw [List.flatMap_cons, spelled, List.append_assoc, List.cons_append, two] at body ⊢
    simpa [Expression.stringBody, other] using body

theorem isPrintable_of_mem_quotedChars {s : List Char} (member : c ∈ quotedChars s) :
    isPrintable c = true := by
  have quote := isMark_quoteMark s
  have marked : isPrintable (quoteMark s) = true := by
    obtain same | same := quote <;> rw [same] <;> decide
  simp only [quotedChars, List.mem_cons, List.mem_append, List.not_mem_nil, or_false,
    List.mem_flatMap] at member
  obtain rfl | ⟨d, _, inside⟩ | rfl := member
  · exact marked
  · exact (quotedChar_spelling _ d).printable quote c inside
  · exact marked

/-- The source is a literal on one line, with no blank behind it, and stands for the text. -/
structure IsLiteral (source text : List Char) : Prop where
  line : physicalLines source = [source]
  ends : ∃ c ∈ source.getLast?, isBlank c = false
  stands : literalText? source = some text

theorem not_mem_quotedChars (hidden : isPrintable c = false) (s : List Char) : c ∉ quotedChars s :=
  fun inside => by simp [isPrintable_of_mem_quotedChars inside] at hidden

theorem isLiteral_quotedChars (s : List Char) : IsLiteral (quotedChars s) s where
  line := physicalLines_single (by simp [quotedChars])
    ⟨not_mem_quotedChars (by decide) s, not_mem_quotedChars (by decide) s⟩
  ends := by
    refine ⟨quoteMark s, ?_, ?_⟩
    · rw [quotedChars, ← List.cons_append, List.getLast?_concat]
      rfl
    · obtain same | same := isMark_quoteMark s <;> rw [same] <;> decide
  stands := by
    have quote := isMark_quoteMark s
    have readable : '\x00' ∉ quotedChars s := not_mem_quotedChars (by decide) s
    have single : '\r' ∉ quotedChars s := not_mem_quotedChars (by decide) s
    have starts : Expression.stringStart? (normalizeLineEnds (quotedChars s)) =
        some ({ body := [] }, quoteMark s,
          s.flatMap (quotedChar (quoteMark s)) ++ [quoteMark s]) := by
      rw [normalizeLineEnds_eq_self single, Expression.stringStart?_eq_some_iff]
      refine ⟨[], rfl, ?_, by simp, rfl⟩
      obtain same | same := quote <;> rw [same] <;> rfl
    simp [literalText?, readable, starts, stringBody_flatMap quote,
      Expression.StringLiteral.text?, unescaped_flatMap quote]

example : quotedChars "it's".toList = "\"it's\"".toList := by decide

end OptionProtocol.Text
