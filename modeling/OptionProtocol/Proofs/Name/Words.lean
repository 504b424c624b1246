import OptionProtocol.Proofs.Name.Snake
import OptionProtocol.Proofs.Text.Pieces

/-! The words of any name. Cleaning leaves a letter or digit in every name, snake case keeps all of
them, and in all styles without hyphens a cleaned name is made of word characters. -/

set_option autoImplicit false

namespace OptionProtocol.Name

open Text

variable {s : List Char}

/-- The characters that stand for something, as the underscores do not. -/
def marks (s : List Char) : List Char := s.filter fun c => c != '_'

theorem marks_append (s t : List Char) : marks (s ++ t) = marks s ++ marks t :=
  List.filter_append ..

theorem marks_cons (c : Char) (s : List Char) : marks (c :: s) = marks [c] ++ marks s :=
  marks_append [c] s

theorem marks_underscore (s : List Char) : marks ('_' :: s) = marks s := rfl

theorem marks_splitAcronyms (s : List Char) : marks (splitAcronyms s) = marks s := by
  fun_induction splitAcronyms s with
  | case1 a b c rest _ ih => rw [marks_cons, marks_underscore, ih, ← marks_cons]
  | case2 a b c rest _ ih => rw [marks_cons, ih, ← marks_cons]
  | case3 => rfl

theorem marks_splitCapitals (s : List Char) : marks (splitCapitals s) = marks s := by
  fun_induction splitCapitals s with
  | case1 a b rest _ ih => rw [marks_cons, marks_underscore, ih, ← marks_cons]
  | case2 a b rest _ ih => rw [marks_cons, ih, ← marks_cons]
  | case3 => rfl

theorem marks_collapseUnderscores (s : List Char) : marks (collapseUnderscores s) = marks s := by
  fun_induction collapseUnderscores s with
  | case1 a b rest both ih => rw [ih, both.1, marks_underscore]
  | case2 a b rest _ ih => rw [marks_cons, ih, ← marks_cons]
  | case3 => rfl

theorem marks_trim (s : List Char) : marks (trim (· == '_') s) = marks s := by
  obtain ⟨front, back, whole, fronts, backs⟩ := exists_trim (· == '_') s
  have none {t : List Char} (underscores : ∀ c ∈ t, (c == '_') = true) : marks t = [] := by
    simpa [marks] using underscores
  have parts := congrArg marks whole
  rw [marks_append, marks_append, none fronts, none backs, List.nil_append, List.append_nil] at parts
  exact parts.symm

theorem marks_map_toLower (common : ∀ c ∈ s, IsCommon c) :
    marks (s.map Char.toLower) = (marks s).map Char.toLower := by
  have table : ∀ n < 0x80, ((Char.ofNat n).toLower != '_') = (Char.ofNat n != '_') := by
    decide +kernel
  rw [marks, List.filter_map, marks]
  congr 1
  refine List.filter_congr fun c member => ?_
  exact (common c member).forall_of_table (p := fun c => (c.toLower != '_') = (c != '_')) table

/-! Snake case. -/

theorem isPlain_iff {c : Char} :
    Sanitizer.isPlain c = true ↔ c.isAlphanum = true ∨ c = '_' ∨ c = '-' := by
  simp [Sanitizer.isPlain, or_assoc]

theorem ne_of_isAlphanum {c : Char} (alphanum : c.isAlphanum = true) : c ≠ '-' ∧ c ≠ '_' := by
  constructor <;> rintro rfl <;> exact absurd alphanum (by decide)

theorem isWordChar_hyphenGone {c : Char} (plain : Sanitizer.isPlain c = true) :
    isWordChar (if c = '-' then '_' else c) = true := by
  split
  · rfl
  · rename_i other
    simpa [Sanitizer.isPlain, isWordChar, other] using plain

theorem isWordChar_of_mem_split {d : Char} (plain : ∀ c ∈ s, Sanitizer.isPlain c = true)
    (member : d ∈ splitCapitals (splitAcronyms (s.map fun c => if c = '-' then '_' else c))) :
    isWordChar d = true := by
  obtain rfl | member := mem_splitCapitals member
  · rfl
  · obtain rfl | member := mem_splitAcronyms member
    · rfl
    · obtain ⟨c, inside, rfl⟩ := List.mem_map.mp member
      exact isWordChar_hyphenGone (plain c inside)

theorem snake_eq (plain : ∀ c ∈ s, Sanitizer.isPlain c = true) :
    snake s = trim (· == '_') (collapseUnderscores ((splitCapitals (splitAcronyms
      (s.map fun c => if c = '-' then '_' else c))).map Char.toLower)) := by
  rw [snake, lower_common fun c member => isCommon_of_isWordChar (isWordChar_of_mem_split plain member)]

theorem isTrimmed_snake (s : List Char) : IsTrimmed (· == '_') (snake s) := isTrimmed_trim _ _

theorem isSmallChar_of_mem_snake {d : Char} (plain : ∀ c ∈ s, Sanitizer.isPlain c = true)
    (member : d ∈ snake s) : isSmallChar d = true := by
  rw [snake_eq plain] at member
  obtain ⟨c, inside, rfl⟩ :=
    List.mem_map.mp ((collapseUnderscores_sublist _).subset (mem_of_mem_trim member))
  exact isSmallChar_toLower (isWordChar_of_mem_split plain inside)

theorem marks_hyphensGone (plain : ∀ c ∈ s, Sanitizer.isPlain c = true) :
    marks (s.map fun c => if c = '-' then '_' else c) = s.filter Char.isAlphanum := by
  induction s with
  | nil => rfl
  | cons c s ih =>
    obtain ⟨here, later⟩ := List.forall_mem_cons.mp plain
    rw [List.map_cons, marks_cons, ih later]
    obtain alphanum | rfl | rfl := isPlain_iff.mp here
    · have apart : c ≠ '-' ∧ c ≠ '_' := ne_of_isAlphanum alphanum
      simp [marks, apart, alphanum]
    · rfl
    · rfl

/-- Snake case keeps all letters and digits, in small letters and in their order. -/
theorem marks_snake (plain : ∀ c ∈ s, Sanitizer.isPlain c = true) :
    marks (snake s) = (s.filter Char.isAlphanum).map Char.toLower := by
  rw [snake_eq plain, marks_trim, marks_collapseUnderscores, marks_map_toLower, marks_splitCapitals,
    marks_splitAcronyms, marks_hyphensGone plain]
  exact fun c member => isCommon_of_isWordChar (isWordChar_of_mem_split plain member)

/-! Cleaned names. -/

/-- Plain characters, of which one is a letter or digit. -/
structure IsCleaned (s : List Char) : Prop where
  plain : ∀ c ∈ s, Sanitizer.isPlain c = true
  filled : ∃ c ∈ s, c.isAlphanum = true

theorem isCleaned_clean (name : List Char) : IsCleaned (Sanitizer.clean name) := by
  unfold Sanitizer.clean
  generalize kept_def : trim (fun c => c == '_' || c == '-')
    (name.map fun c => if Sanitizer.isPlain c then c else '_') = kept
  have trimmed : IsTrimmed (fun c => c == '_' || c == '-') kept := kept_def ▸ isTrimmed_trim _ _
  have plain : ∀ c ∈ kept, Sanitizer.isPlain c = true := by
    intro c member
    rw [← kept_def] at member
    obtain ⟨d, _, rfl⟩ := List.mem_map.mp (mem_of_mem_trim member)
    split
    · assumption
    · rfl
  cases kept with
  | nil =>
    have common : "option".toList.all Sanitizer.isPlain = true := by decide
    have letter : "option".toList.any Char.isAlphanum = true := by decide
    exact ⟨List.all_eq_true.mp common, List.any_eq_true.mp letter⟩
  | cons c rest =>
    have first : (c == '_' || c == '-') = false := trimmed.first c rfl
    have alphanum : c.isAlphanum = true := by
      simpa [Sanitizer.isPlain, Bool.or_assoc, first] using plain c List.mem_cons_self
    dsimp only
    split
    · exact ⟨List.forall_mem_cons.mpr ⟨rfl, plain⟩, c, by simp, alphanum⟩
    · exact ⟨plain, c, List.mem_cons_self, alphanum⟩

/-- Word characters, and at least one. -/
structure IsWord (s : List Char) : Prop where
  filled : s ≠ []
  all : ∀ c ∈ s, isWordChar c = true

namespace IsCleaned

theorem snake_ne_nil (cleaned : IsCleaned s) : snake s ≠ [] := by
  intro none
  have kept := marks_snake cleaned.plain
  rw [none, eq_comm, marks, List.filter_nil, List.map_eq_nil_iff, List.filter_eq_nil_iff] at kept
  obtain ⟨c, member, alphanum⟩ := cleaned.filled
  exact kept c member alphanum

/-- The first of the words in snake case is not empty. -/
theorem exists_splitOn_snake (cleaned : IsCleaned s) :
    ∃ c word rest, splitOn '_' (snake s) = (c :: word) :: rest := by
  obtain ⟨c, more, whole⟩ := List.exists_cons_of_ne_nil cleaned.snake_ne_nil
  have first : (c == '_') = false := (isTrimmed_snake s).first c (by rw [whole]; rfl)
  obtain ⟨word, rest, split⟩ := List.exists_cons_of_ne_nil (splitWhere_ne_nil (· == '_') more)
  exact ⟨c, word, rest, by rw [whole, splitOn, splitWhere, first, if_neg (by simp), split]; rfl⟩

end IsCleaned

/-! Other styles. -/

theorem isWordChar_toLower {c : Char} (word : isWordChar c = true) : isWordChar c.toLower = true :=
  isWordChar_of_isSmallChar (isSmallChar_toLower word)

theorem isWordChar_toUpper {c : Char} (word : isWordChar c = true) : isWordChar c.toUpper = true := by
  have table : ∀ n < 0x80, isWordChar (Char.ofNat n) = true →
      isWordChar (Char.ofNat n).toUpper = true := by decide +kernel
  exact (isCommon_of_isWordChar word).forall_of_table
    (p := fun c => isWordChar c = true → isWordChar c.toUpper = true) table word

theorem isWordChar_of_mem_lower {d : Char} (word : ∀ c ∈ s, isWordChar c = true)
    (member : d ∈ lower s) : isWordChar d = true := by
  rw [lower_common fun c inside => isCommon_of_isWordChar (word c inside)] at member
  obtain ⟨c, inside, rfl⟩ := List.mem_map.mp member
  exact isWordChar_toLower (word c inside)

theorem isWordChar_of_mem_capitalize {d : Char} (word : ∀ c ∈ s, isWordChar c = true)
    (member : d ∈ capitalize s) : isWordChar d = true := by
  cases s with
  | nil => cases member
  | cons c rest =>
    rw [capitalize_common fun c inside => isCommon_of_isWordChar (word c inside)] at member
    obtain ⟨first, others⟩ := List.forall_mem_cons.mp word
    obtain rfl | member := List.mem_cons.mp member
    · exact isWordChar_toUpper first
    · obtain ⟨other, inside, rfl⟩ := List.mem_map.mp member
      exact isWordChar_toLower (others other inside)

namespace IsCleaned

theorem isWord_snake (cleaned : IsCleaned s) : IsWord (snake s) where
  filled := cleaned.snake_ne_nil
  all _ member := isWordChar_of_isSmallChar (isSmallChar_of_mem_snake cleaned.plain member)

/-- The words in snake case, of which the first one is not empty. -/
theorem exists_words (cleaned : IsCleaned s) : ∃ c word rest,
    splitOn '_' (snake s) = (c :: word) :: rest ∧
      (∀ d ∈ c :: word, isWordChar d = true) ∧ ∀ piece ∈ rest, ∀ d ∈ piece, isWordChar d = true := by
  obtain ⟨c, word, rest, split⟩ := cleaned.exists_splitOn_snake
  have solid : ∀ piece ∈ splitOn '_' (snake s), ∀ d ∈ piece, isWordChar d = true :=
    fun piece member d inside => cleaned.isWord_snake.all d (mem_of_mem_splitWhere member inside)
  rw [split, List.forall_mem_cons] at solid
  exact ⟨c, word, rest, split, solid⟩

theorem isWord_camel (cleaned : IsCleaned s) : IsWord (camel s) := by
  obtain ⟨c, word, rest, split, first, others⟩ := cleaned.exists_words
  rw [camel, split]
  constructor
  · simp [lower_common fun d member => isCommon_of_isWordChar (first d member)]
  · refine List.forall_mem_append.mpr ⟨fun d => isWordChar_of_mem_lower first, fun d member => ?_⟩
    obtain ⟨piece, inside, member⟩ := List.mem_flatMap.mp member
    exact isWordChar_of_mem_capitalize (others piece inside) member

theorem isWord_pascal (cleaned : IsCleaned s) : IsWord (pascal s) := by
  obtain ⟨c, word, rest, split, first, others⟩ := cleaned.exists_words
  rw [pascal, split, List.flatMap_cons]
  constructor
  · simp [capitalize_common fun d member => isCommon_of_isWordChar (first d member)]
  · refine List.forall_mem_append.mpr
      ⟨fun d => isWordChar_of_mem_capitalize first, fun d member => ?_⟩
    obtain ⟨piece, inside, member⟩ := List.mem_flatMap.mp member
    exact isWordChar_of_mem_capitalize (others piece inside) member

theorem isWord_screamingSnake (cleaned : IsCleaned s) : IsWord (screamingSnake s) := by
  have word := cleaned.isWord_snake
  rw [screamingSnake, upper_common fun c member => isCommon_of_isWordChar (word.all c member)]
  refine ⟨by simpa using word.filled, fun d member => ?_⟩
  obtain ⟨c, inside, rfl⟩ := List.mem_map.mp member
  exact isWordChar_toUpper (word.all c inside)

theorem isWord_inCase (cleaned : IsCleaned s) {style : NameCase} (solid : style ≠ .kebab) :
    IsWord (inCase style s) := by
  cases style with
  | snake => exact cleaned.isWord_snake
  | camel => exact cleaned.isWord_camel
  | pascal => exact cleaned.isWord_pascal
  | kebab => exact absurd rfl solid
  | screamingSnake => exact cleaned.isWord_screamingSnake

end IsCleaned

end OptionProtocol.Name
