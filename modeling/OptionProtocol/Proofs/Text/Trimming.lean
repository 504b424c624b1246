import Mathlib.Data.List.TakeWhile
import OptionProtocol.Text.Basic

/-! Trimming takes characters off both ends until neither end is one to drop; a text without
such ends stays as it is. -/

set_option autoImplicit false

namespace OptionProtocol.Text

variable {drop : Char → Bool} {s : List Char}

/-- Neither the first nor the last character is one to drop. -/
structure IsTrimmed (drop : Char → Bool) (s : List Char) : Prop where
  first : ∀ c ∈ s.head?, drop c = false
  last : ∀ c ∈ s.getLast?, drop c = false

theorem drop_head?_dropWhile (drop : Char → Bool) (s : List Char) :
    ∀ c ∈ (s.dropWhile drop).head?, drop c = false := by
  intro c first
  have kept := List.head?_dropWhile_not drop s
  rw [Option.mem_def.mp first] at kept
  exact kept

theorem mem_dropWhile {c : Char} (member : c ∈ s) (kept : drop c = false) :
    c ∈ s.dropWhile drop := by
  rw [← List.takeWhile_append_dropWhile (p := drop) (l := s)] at member
  rcases List.mem_append.mp member with front | back
  · simp [List.mem_takeWhile_imp front] at kept
  · exact back

theorem isPrefix_trimEnd (drop : Char → Bool) (s : List Char) : trimEnd drop s <+: s := by
  have suffix := List.dropWhile_suffix drop (l := s.reverse)
  simpa [trimEnd] using List.reverse_prefix.mpr suffix

theorem mem_of_mem_trim {c : Char} (member : c ∈ trim drop s) : c ∈ s :=
  (List.dropWhile_suffix drop).subset ((isPrefix_trimEnd drop _).subset member)

theorem drop_getLast?_trimEnd (drop : Char → Bool) (s : List Char) :
    ∀ c ∈ (trimEnd drop s).getLast?, drop c = false := by
  intro c last
  rw [trimEnd, List.getLast?_reverse] at last
  exact drop_head?_dropWhile drop _ c last

theorem isTrimmed_trim (drop : Char → Bool) (s : List Char) : IsTrimmed drop (trim drop s) where
  first c first := by
    obtain ⟨more, cut⟩ := List.head?_eq_some_iff.mp first
    obtain ⟨rest, whole⟩ := isPrefix_trimEnd drop (trimStart drop s)
    refine drop_head?_dropWhile drop s c ?_
    rw [trim] at cut
    rw [← trimStart, ← whole, cut]
    rfl
  last := drop_getLast?_trimEnd drop _

theorem dropWhile_eq_self (first : ∀ c ∈ s.head?, drop c = false) : s.dropWhile drop = s := by
  cases s with
  | nil => rfl
  | cons c rest => simp [first c rfl]

theorem trimEnd_eq_self (last : ∀ c ∈ s.getLast?, drop c = false) : trimEnd drop s = s := by
  have back : ∀ c ∈ s.reverse.head?, drop c = false := by simpa [List.head?_reverse] using last
  rw [trimEnd, dropWhile_eq_self back, List.reverse_reverse]

theorem IsTrimmed.trim_eq (trimmed : IsTrimmed drop s) : trim drop s = s := by
  rw [trim, trimStart, dropWhile_eq_self trimmed.first, trimEnd_eq_self trimmed.last]

/-- What is to drop behind a trimmed text is taken off again. -/
theorem IsTrimmed.trim_append {back : List Char} (trimmed : IsTrimmed drop s) (filled : s ≠ [])
    (backs : ∀ c ∈ back, drop c = true) : trim drop (s ++ back) = s := by
  have first : ∀ c ∈ (s ++ back).head?, drop c = false := by
    obtain ⟨c, rest, rfl⟩ := List.exists_cons_of_ne_nil filled
    exact trimmed.first
  have behind : ∀ c ∈ back.reverse, drop c = true := by simpa using backs
  rw [trim, trimStart, dropWhile_eq_self first, trimEnd, List.reverse_append,
    List.dropWhile_append_of_pos behind]
  exact trimEnd_eq_self trimmed.last

theorem trim_trim (drop : Char → Bool) (s : List Char) :
    trim drop (trim drop s) = trim drop s :=
  (isTrimmed_trim drop s).trim_eq

theorem mem_trimEnd {c : Char} (member : c ∈ s) (kept : drop c = false) : c ∈ trimEnd drop s :=
  List.mem_reverse.mpr (mem_dropWhile (List.mem_reverse.mpr member) kept)

/-- A character that is kept stands in what is left. -/
theorem mem_trim {c : Char} (member : c ∈ s) (kept : drop c = false) : c ∈ trim drop s :=
  mem_trimEnd (mem_dropWhile member kept) kept

theorem trim_cons {c : Char} (kept : drop c = false) (rest : List Char) :
    ∃ more, trim drop (c :: rest) = c :: more := by
  have start : trimStart drop (c :: rest) = c :: rest := by simp [trimStart, kept]
  have inside : c ∈ trim drop (c :: rest) := mem_trim List.mem_cons_self kept
  obtain ⟨d, more, trimmed⟩ := List.exists_cons_of_ne_nil (List.ne_nil_of_mem inside)
  obtain ⟨cut, whole⟩ := isPrefix_trimEnd drop (trimStart drop (c :: rest))
  rw [← trim, trimmed, start, List.cons_append] at whole
  exact ⟨more, by rw [trimmed, (List.cons.inj whole).1]⟩

/-- Only characters to drop are taken off. -/
theorem exists_trim (drop : Char → Bool) (s : List Char) :
    ∃ front back, s = front ++ trim drop s ++ back ∧ (∀ c ∈ front, drop c = true) ∧
      ∀ c ∈ back, drop c = true := by
  refine ⟨s.takeWhile drop, ((trimStart drop s).reverse.takeWhile drop).reverse, ?_,
    fun c => List.mem_takeWhile_imp,
    fun c member => List.mem_takeWhile_imp (List.mem_reverse.mp member)⟩
  rw [List.append_assoc, trim, trimEnd, ← List.reverse_append, List.takeWhile_append_dropWhile,
    List.reverse_reverse, trimStart, List.takeWhile_append_dropWhile]

theorem exists_trimStart_append (front : List Char) (first : ∀ c ∈ s.head?, drop c = false) :
    ∃ left, trimStart drop (front ++ s) = left ++ s := by
  rw [trimStart, List.dropWhile_append]
  split
  · exact ⟨[], dropWhile_eq_self first⟩
  · exact ⟨_, rfl⟩

theorem exists_trimEnd_append (back : List Char) (last : ∀ c ∈ s.getLast?, drop c = false) :
    ∃ left, trimEnd drop (s ++ back) = s ++ left := by
  have first : ∀ c ∈ s.reverse.head?, drop c = false := by simpa [List.head?_reverse] using last
  obtain ⟨left, kept⟩ := exists_trimStart_append back.reverse first
  refine ⟨left.reverse, ?_⟩
  rw [trimEnd, List.reverse_append, ← trimStart, kept, List.reverse_append, List.reverse_reverse]

/-- Trimming does not touch a part that neither begins nor ends with a character to drop. -/
theorem IsTrimmed.isInfix_trim {part : List Char} (trimmed : IsTrimmed drop part)
    (filled : part ≠ []) (inside : part <:+: s) : part <:+: trim drop s := by
  obtain ⟨front, back, rfl⟩ := inside
  have first : ∀ c ∈ (part ++ back).head?, drop c = false := by
    obtain ⟨d, part, rfl⟩ := List.exists_cons_of_ne_nil filled
    exact trimmed.first
  obtain ⟨before, start⟩ := exists_trimStart_append front first
  have last : ∀ c ∈ (before ++ part).getLast?, drop c = false := by
    rw [List.getLast?_append, List.getLast?_eq_some_getLast filled]
    intro c same
    exact trimmed.last c (by rw [List.getLast?_eq_some_getLast filled]; exact same)
  obtain ⟨behind, finish⟩ := exists_trimEnd_append back last
  refine ⟨before, behind, ?_⟩
  rw [trim, List.append_assoc front, start, ← List.append_assoc, finish]

theorem trimEnd_append {c : Char} (member : c ∈ s) (kept : drop c = false) (front : List Char) :
    trimEnd drop (front ++ s) = front ++ trimEnd drop s := by
  have filled : s.reverse.dropWhile drop ≠ [] :=
    List.ne_nil_of_mem (mem_dropWhile (List.mem_reverse.mpr member) kept)
  rw [trimEnd, List.reverse_append, List.dropWhile_append, if_neg (by simpa using filled),
    List.reverse_append, List.reverse_reverse, trimEnd]

theorem trimEnd_cons {c : Char} (kept : drop c = false) (rest : List Char) :
    ∃ more, trimEnd drop (c :: rest) = c :: more := by
  obtain ⟨more, trimmed⟩ := trim_cons kept rest
  exact ⟨more, by rwa [trim, trimStart, List.dropWhile_cons_of_neg (by simp [kept])] at trimmed⟩

end OptionProtocol.Text

namespace OptionProtocol

@[simp] theorem Text.trimmed_trimmed (text : String) :
    Text.trimmed (Text.trimmed text) = Text.trimmed text := by
  simp [Text.trimmed, Text.over, Text.trim_trim]

theorem Text.trimmed_ne_empty {text : String} (filled : Text.isAllBlank text = false) :
    Text.trimmed text ≠ "" := by
  obtain ⟨c, member, kept⟩ : ∃ c ∈ text.toList, Text.isBlank c = false := by
    simpa [Text.isAllBlank] using filled
  have inside := Text.mem_trim member kept
  intro empty
  rw [Text.trimmed, Text.over, String.ofList_eq_empty_iff] at empty
  simp [empty] at inside

end OptionProtocol
