import Mathlib.Data.List.Chain
import OptionProtocol.Proofs.Name.Words

/-! Snake case as a normal form. The snake case of a name is empty or made of words of small letters
and digits with single underscores between them, and a text of this form is its own snake case. -/

set_option autoImplicit false

namespace OptionProtocol.Name

open Text

variable {s : List Char} {c : Char}

/-- A small letter or a digit. -/
def isMark (c : Char) : Bool := c.isLower || c.isDigit

structure IsSmallWord (word : List Char) : Prop where
  filled : word ≠ []
  all : ∀ c ∈ word, isMark c = true

/-- Words of small letters and digits with single underscores between them. -/
inductive IsSnake : List Char → Prop where
  | last {word : List Char} (small : IsSmallWord word) : IsSnake word
  | joined {word rest : List Char} (small : IsSmallWord word) (more : IsSnake rest) :
      IsSnake (word ++ '_' :: rest)

theorem IsSmallWord.cons {word : List Char} (mark : isMark c = true)
    (all : ∀ d ∈ word, isMark d = true) : IsSmallWord (c :: word) :=
  ⟨List.cons_ne_nil c word, List.forall_mem_cons.mpr ⟨mark, all⟩⟩

theorem IsSnake.cons (mark : isMark c = true) (snake : IsSnake s) : IsSnake (c :: s) := by
  cases snake with
  | last small => exact .last (.cons mark small.all)
  | joined small more => exact .joined (.cons mark small.all) more

/-- No two underscores in a row. -/
def Single (s : List Char) : Prop := s.IsChain fun a b => ¬(a = '_' ∧ b = '_')

theorem single_collapseUnderscores (s : List Char) : Single (collapseUnderscores s) := by
  fun_induction collapseUnderscores s with
  | case1 a b rest both ih => exact ih
  | case2 a b rest apart ih =>
    refine List.isChain_cons.mpr ⟨fun next first => ?_, ih⟩
    rw [head?_collapseUnderscores] at first
    obtain rfl : b = next := Option.some.inj first
    exact apart
  | case3 s short =>
    cases s with
    | nil => exact .nil
    | cons a more =>
      cases more with
      | nil => exact .singleton a
      | cons b rest => exact absurd rfl (short a b rest)

theorem collapseUnderscores_eq_self (single : Single s) : collapseUnderscores s = s := by
  fun_induction collapseUnderscores s with
  | case1 a b rest both ih => exact absurd both (List.isChain_cons_cons.mp single).1
  | case2 a b rest _ ih => rw [ih (List.isChain_cons_cons.mp single).2]
  | case3 => rfl

/-! What snake case leaves is tidy, and what is tidy has the form. -/

/-- Small characters, with underscores neither at the ends nor in a row. -/
structure IsTidy (s : List Char) : Prop where
  small : ∀ c ∈ s, isSmallChar c = true
  trimmed : IsTrimmed (· == '_') s
  single : Single s

theorem isTidy_snake (plain : ∀ c ∈ s, Sanitizer.isPlain c = true) : IsTidy (snake s) where
  small _ member := isSmallChar_of_mem_snake plain member
  trimmed := isTrimmed_snake s
  single := by
    rw [snake]
    generalize lower _ = words
    obtain ⟨front, back, whole, _, _⟩ := exists_trim (· == '_') (collapseUnderscores words)
    refine List.IsChain.infix (single_collapseUnderscores words) ⟨front, back, ?_⟩
    exact whole.symm

theorem isMark_or_of_isSmallChar (small : isSmallChar c = true) : isMark c = true ∨ c = '_' := by
  simpa [isSmallChar, isMark] using small

-- A text may go on with an underscore, in front of which there is a word still to come.
theorem isSnake_or_behind (small : ∀ c ∈ s, isSmallChar c = true) (single : Single s)
    (last : s.getLast? ≠ some '_') :
    s = [] ∨ IsSnake s ∨ ∃ rest, s = '_' :: rest ∧ IsSnake rest := by
  induction s with
  | nil => exact .inl rfl
  | cons c s ih =>
    obtain ⟨here, later⟩ := List.forall_mem_cons.mp small
    have last' : s.getLast? ≠ some '_' := by
      cases s with
      | nil => simp
      | cons d rest => simpa using last
    right
    obtain mark | rfl := isMark_or_of_isSmallChar here
    · left
      have word : IsSmallWord [c] := .cons mark (by simp)
      obtain rfl | snake | ⟨rest, rfl, snake⟩ := ih later (List.isChain_cons.mp single).2 last'
      · exact .last word
      · exact snake.cons mark
      · exact .joined word snake
    · right
      obtain rfl | snake | ⟨rest, rfl, _⟩ := ih later (List.isChain_cons.mp single).2 last'
      · exact absurd rfl last
      · exact ⟨s, rfl, snake⟩
      · exact absurd ⟨rfl, rfl⟩ (List.isChain_cons_cons.mp single).1

theorem IsTidy.nil_or_isSnake (tidy : IsTidy s) : s = [] ∨ IsSnake s := by
  have last : s.getLast? ≠ some '_' := fun same => by
    simpa using tidy.trimmed.last '_' same
  obtain empty | snake | ⟨rest, rfl, _⟩ := isSnake_or_behind tidy.small tidy.single last
  · exact .inl empty
  · exact .inr snake
  · simpa using tidy.trimmed.first '_' rfl

/-! Nothing is done to a tidy text. -/

theorem splitAcronyms_eq_self (small : ∀ c ∈ s, c.isUpper = false) : splitAcronyms s = s := by
  fun_induction splitAcronyms s with
  | case1 a b c rest capitals ih => simp [small a List.mem_cons_self] at capitals
  | case2 a b c rest _ ih => rw [ih (List.forall_mem_cons.mp small).2]
  | case3 => rfl

theorem splitCapitals_eq_self (small : ∀ c ∈ s, c.isUpper = false) : splitCapitals s = s := by
  fun_induction splitCapitals s with
  | case1 a b rest capital ih => simp [small b (by simp)] at capital
  | case2 a b rest _ ih => rw [ih (List.forall_mem_cons.mp small).2]
  | case3 => rfl

theorem isUpper_of_isSmallChar (small : isSmallChar c = true) : c.isUpper = false := by
  have table : ∀ n < 0x80, isSmallChar (Char.ofNat n) = true →
      (Char.ofNat n).isUpper = false := by decide +kernel
  exact (isCommon_of_isWordChar (isWordChar_of_isSmallChar small)).forall_of_table
    (p := fun c => isSmallChar c = true → c.isUpper = false) table small

theorem IsTidy.snake_eq (tidy : IsTidy s) : snake s = s := by
  have hyphens : (s.map fun c => if c = '-' then '_' else c) = s := by
    refine map_eq_self fun c member => if_neg ?_
    rintro rfl
    exact absurd (tidy.small '-' member) (by decide)
  have small : ∀ c ∈ s, c.isUpper = false := fun c member =>
    isUpper_of_isSmallChar (tidy.small c member)
  have lowered : lower s = s := by
    rw [lower_common fun c member =>
      isCommon_of_isWordChar (isWordChar_of_isSmallChar (tidy.small c member))]
    exact map_eq_self fun c member => toLower_of_isSmallChar (tidy.small c member)
  rw [snake, hyphens, splitAcronyms_eq_self small, splitCapitals_eq_self small, lowered,
    collapseUnderscores_eq_self tidy.single, tidy.trimmed.trim_eq]

/-- The snake case of a name of letters, digits, underscores and hyphens has the form, is made of
all the letters and digits in their order, and is its own snake case. -/
theorem convert_snake_normal (name : String)
    (plain : ∀ c ∈ name.toList, c.isAlphanum = true ∨ c = '_' ∨ c = '-') :
    (convert .snake name = "" ∨ IsSnake (convert .snake name).toList) ∧
      (convert .snake name).toList.filter (· != '_') =
        (name.toList.filter Char.isAlphanum).map Char.toLower ∧
      convert .snake (convert .snake name) = convert .snake name := by
  have plain : ∀ c ∈ name.toList, Sanitizer.isPlain c = true := fun c member =>
    isPlain_iff.mpr (plain c member)
  have chars : (convert .snake name).toList = snake name.toList := String.toList_ofList
  have tidy : IsTidy (snake name.toList) := isTidy_snake plain
  refine ⟨?_, ?_, ?_⟩
  · rw [chars, ← String.toList_eq_nil_iff, chars]
    exact tidy.nil_or_isSnake
  · rw [chars]
    exact marks_snake plain
  · rw [convert, Text.over, chars, inCase, tidy.snake_eq]
    rfl

/-- Acronyms, digits and separators of both kinds. -/
theorem convert_snake_normal_mixed :
    let name := "--HTTPServer2Go__XMLv3-_a1B"
    (∀ c ∈ name.toList, c.isAlphanum = true ∨ c = '_' ∨ c = '-') ∧
      convert .snake name = "http_server2_go_xm_lv3_a1_b" ∧
      IsSnake "http_server2_go_xm_lv3_a1_b".toList ∧
      convert .snake "http_server2_go_xm_lv3_a1_b" = "http_server2_go_xm_lv3_a1_b" := by
  intro name
  have chars : name.toList.all Sanitizer.isPlain = true := by decide +kernel
  have plain : ∀ c ∈ name.toList, c.isAlphanum = true ∨ c = '_' ∨ c = '-' := fun c member =>
    isPlain_iff.mp (List.all_eq_true.mp chars c member)
  have spelled : convert .snake name = "http_server2_go_xm_lv3_a1_b" := by decide +kernel
  obtain ⟨form, _, again⟩ := convert_snake_normal name plain
  rw [spelled] at form again
  exact ⟨plain, spelled, form.resolve_left (by decide), again⟩

end OptionProtocol.Name
