import OptionProtocol.Definition.Reading
import OptionProtocol.Name.Sanitizer
import OptionProtocol.Proofs.Text.LetterCase
import OptionProtocol.Proofs.Text.Trimming

/-! Properties in small letters: what the words of a property are turned into begins with a
small letter and has none but small letters, digits and underscores in it. -/

set_option autoImplicit false

namespace OptionProtocol.Name

open Text

def isWordChar (c : Char) : Bool := c.isAlphanum || c == '_'

def isSmallChar (c : Char) : Bool := c.isLower || c.isDigit || c == '_'

/-- A small letter in front, and nothing but allowed characters. -/
structure StartsSmall (allowed : Char → Bool) (s : List Char) : Prop where
  first : ∃ c, s.head? = some c ∧ c.isLower = true
  all : ∀ c ∈ s, allowed c = true

theorem isCommon_of_isWordChar {c : Char} (word : isWordChar c = true) : IsCommon c := by
  simp only [isWordChar, Bool.or_eq_true, beq_iff_eq] at word
  rcases word with alphanum | rfl
  · exact .of_isAlphanum alphanum
  · unfold IsCommon
    decide

theorem isWordChar_of_isSmallChar {c : Char} (small : isSmallChar c = true) :
    isWordChar c = true := by
  simp only [isSmallChar, isWordChar, Char.isAlphanum, Bool.or_eq_true] at small ⊢
  rcases small with (small | digit) | underscore
  · exact .inl (.inl (isAlpha_of_isLower small))
  · exact .inl (.inr digit)
  · exact .inr underscore

theorem isSmallChar_toLower {c : Char} (word : isWordChar c = true) :
    isSmallChar c.toLower = true := by
  have table : ∀ n < 0x80, isWordChar (Char.ofNat n) = true →
      isSmallChar (Char.ofNat n).toLower = true := by decide +kernel
  exact (isCommon_of_isWordChar word).forall_of_table
    (p := fun c => isWordChar c = true → isSmallChar c.toLower = true) table word

theorem toLower_of_isSmallChar {c : Char} (small : isSmallChar c = true) : c.toLower = c := by
  have table : ∀ n < 0x80, isSmallChar (Char.ofNat n) = true →
      (Char.ofNat n).toLower = Char.ofNat n := by decide +kernel
  exact (isCommon_of_isWordChar (isWordChar_of_isSmallChar small)).forall_of_table
    (p := fun c => isSmallChar c = true → c.toLower = c) table small

theorem isSmallChar_of_isLower {c : Char} (small : c.isLower = true) : isSmallChar c = true := by
  simp [isSmallChar, small]

/-- A small letter is none of the characters that names are trimmed of. -/
theorem not_edge_of_isLower (c : Char) (small : c.isLower = true) :
    (c == '_' || c == '-') = false := by
  rw [Bool.or_eq_false_iff, beq_eq_false_iff_ne, beq_eq_false_iff_ne]
  constructor <;> rintro rfl <;> exact absurd small (by decide)

namespace StartsSmall

variable {allowed : Char → Bool} {s t : List Char}

theorem exists_cons (before : StartsSmall allowed s) :
    ∃ c rest, s = c :: rest ∧ c.isLower = true ∧ c.isDigit = false := by
  obtain ⟨c, head, small⟩ := before.first
  obtain ⟨rest, rfl⟩ := List.head?_eq_some_iff.mp head
  exact ⟨c, rest, rfl, small, not_isDigit_of_isAlpha (isAlpha_of_isLower small)⟩

/-- Characters may go and underscores may come, but not in front. -/
theorem of_head? (before : StartsSmall allowed s) (underscore : allowed '_' = true)
    (head : t.head? = s.head?) (inside : ∀ c ∈ t, c = '_' ∨ c ∈ s) : StartsSmall allowed t where
  first := head ▸ before.first
  all c member := by
    rcases inside c member with rfl | old
    · exact underscore
    · exact before.all c old

theorem trim (before : StartsSmall allowed s) (underscore : allowed '_' = true) {drop : Char → Bool}
    (kept : ∀ c : Char, c.isLower = true → drop c = false) :
    StartsSmall allowed (Text.trim drop s) := by
  obtain ⟨c, rest, rfl, small, _⟩ := before.exists_cons
  obtain ⟨more, trimmed⟩ := trim_cons (kept c small) rest
  refine before.of_head? underscore ?_ fun d member => .inr (mem_of_mem_trim member)
  rw [trimmed]
  rfl

end StartsSmall

theorem head?_splitAcronyms (s : List Char) : (splitAcronyms s).head? = s.head? := by
  fun_cases splitAcronyms s <;> rfl

theorem mem_splitAcronyms {s : List Char} {d : Char} (member : d ∈ splitAcronyms s) :
    d = '_' ∨ d ∈ s := by
  fun_induction splitAcronyms s with
  | case1 a b c rest _ ih => grind
  | case2 a b c rest _ ih => grind
  | case3 s => exact .inr member

theorem head?_splitCapitals (s : List Char) : (splitCapitals s).head? = s.head? := by
  fun_cases splitCapitals s <;> rfl

theorem mem_splitCapitals {s : List Char} {d : Char} (member : d ∈ splitCapitals s) :
    d = '_' ∨ d ∈ s := by
  fun_induction splitCapitals s with
  | case1 a b rest _ ih => grind
  | case2 a b rest _ ih => grind
  | case3 s => exact .inr member

theorem collapseUnderscores_sublist (s : List Char) : (collapseUnderscores s).Sublist s := by
  fun_induction collapseUnderscores s with
  | case1 a b rest _ ih => exact ih.cons a
  | case2 a b rest _ ih => exact ih.cons_cons a
  | case3 s => exact .refl s

theorem head?_collapseUnderscores (s : List Char) :
    (collapseUnderscores s).head? = s.head? := by
  fun_induction collapseUnderscores s with
  | case1 a b rest both ih =>
    obtain ⟨rfl, rfl⟩ := both
    exact ih
  | case2 => rfl
  | case3 => rfl

theorem startsSmall_lower {s : List Char} (before : StartsSmall isWordChar s) :
    StartsSmall isSmallChar (lower s) := by
  rw [lower_common fun c member => isCommon_of_isWordChar (before.all c member)]
  constructor
  · obtain ⟨c, head, letter⟩ := before.first
    have same : c.toLower = c := toLower_of_isSmallChar (isSmallChar_of_isLower letter)
    exact ⟨c, by rw [List.head?_map, head, Option.map_some, same], letter⟩
  · intro c member
    obtain ⟨d, inside, rfl⟩ := List.mem_map.mp member
    exact isSmallChar_toLower (before.all d inside)

theorem startsSmall_snake {s : List Char} (before : StartsSmall isWordChar s) :
    StartsSmall isSmallChar (snake s) := by
  have noHyphens : (s.map fun c => if c = '-' then '_' else c) = s := by
    refine map_eq_self fun c member => if_neg ?_
    rintro rfl
    exact absurd (before.all '-' member) (by decide)
  have acronyms : StartsSmall isWordChar (splitAcronyms s) :=
    before.of_head? rfl (head?_splitAcronyms s) fun _ => mem_splitAcronyms
  have capitals : StartsSmall isWordChar (splitCapitals (splitAcronyms s)) :=
    acronyms.of_head? rfl (head?_splitCapitals _) fun _ => mem_splitCapitals
  have collapsed := (startsSmall_lower capitals).of_head? rfl (head?_collapseUnderscores _)
    fun _ member => .inr ((collapseUnderscores_sublist _).subset member)
  rw [snake, noHyphens]
  refine collapsed.trim rfl fun c small => ?_
  exact (Bool.or_eq_false_iff.mp (not_edge_of_isLower c small)).1

theorem cons_of_isProperty {s : List Char} (proper : Definition.isProperty s = true) :
    ∃ c rest, s = c :: rest ∧ c.isLower = true ∧
      ∀ d ∈ rest, isWordChar d = true ∨ d = '\n' := by
  cases s with
  | nil => cases proper
  | cons c rest =>
    simp only [Definition.isProperty, Bool.and_eq_true] at proper
    refine ⟨c, rest, rfl, proper.1, fun d member => ?_⟩
    have word := List.all_eq_true.mp proper.2
    split at word
    · rename_i ended
      obtain ⟨front, rfl⟩ := List.getLast?_eq_some_iff.mp ended
      rw [List.dropLast_concat] at word
      rcases List.mem_append.mp member with inside | last
      · exact .inl (word d inside)
      · exact .inr (List.mem_singleton.mp last)
    · exact .inl (word d member)

/-- Word characters stay as they are when a name is cleaned; anything else becomes one. -/
theorem isWordChar_cleaned {d : Char} (word : isWordChar d = true ∨ d = '\n') :
    isWordChar (if Sanitizer.isPlain d then d else '_') = true := by
  rcases word with word | rfl
  · have plain : Sanitizer.isPlain d = true := by
      simp only [isWordChar, Sanitizer.isPlain, Bool.or_eq_true] at word ⊢
      exact .inl word
    rwa [if_pos plain]
  · decide

theorem startsSmall_clean {s : List Char} (proper : Definition.isProperty s = true) :
    StartsSmall isWordChar (Sanitizer.clean s) := by
  obtain ⟨c, rest, rfl, small, word⟩ := cons_of_isProperty proper
  have alpha : c.isAlpha = true := isAlpha_of_isLower small
  have plain : Sanitizer.isPlain c = true := by simp [Sanitizer.isPlain, Char.isAlphanum, alpha]
  have mapped : StartsSmall isWordChar
      ((c :: rest).map fun d => if Sanitizer.isPlain d then d else '_') := by
    constructor
    · exact ⟨c, by simp [plain], small⟩
    · intro d member
      obtain ⟨old, inside, rfl⟩ := List.mem_map.mp member
      rcases List.mem_cons.mp inside with rfl | inside
      · exact isWordChar_cleaned (.inl (by simp [isWordChar, Char.isAlphanum, alpha]))
      · exact isWordChar_cleaned (word old inside)
  have kept := mapped.trim rfl not_edge_of_isLower
  obtain ⟨first, more, trimmed, _, noDigit⟩ := kept.exists_cons
  rw [trimmed] at kept
  simp only [Sanitizer.clean, trimmed, noDigit, Bool.false_eq_true, if_false]
  exact kept

end OptionProtocol.Name

namespace OptionProtocol

open Name in
/-- A property is spelled in small letters. -/
theorem Sanitizer.startsSmall_spelled {property : String}
    (proper : Definition.isProperty property.toList = true) :
    StartsSmall isSmallChar (spelled .snake property).toList := by
  have snake := startsSmall_snake (startsSmall_clean proper)
  obtain ⟨first, more, words, _, noDigit⟩ := snake.exists_cons
  rw [words] at snake
  simpa [spelled, Text.over, inCase, words, noDigit] using snake

end OptionProtocol
