import OptionProtocol.Text.Basic

/-! Pieces of a text between separators are those of the core library, and come back from
the text that puts them together. -/

set_option autoImplicit false

namespace OptionProtocol.Text

theorem splitWhere_eq_splitOnP (sep : Char → Bool) (s : List Char) :
    splitWhere sep s = s.splitOnP sep := by
  induction s with
  | nil => simp [splitWhere]
  | cons c rest ih => rw [splitWhere, List.splitOnP_cons_eq_if_modifyHead, ih]

theorem splitOn_eq (sep : Char) (s : List Char) : splitOn sep s = s.splitOn sep := by
  rw [splitOn, splitWhere_eq_splitOnP, List.splitOn_eq_splitOnP]

theorem sep_eq_false_of_mem_splitWhere {sep : Char → Bool} {s piece : List Char}
    (member : piece ∈ splitWhere sep s) : ∀ c ∈ piece, sep c = false := by
  induction s generalizing piece with
  | nil =>
    obtain rfl := List.mem_singleton.mp member
    simp
  | cons c rest ih =>
    rw [splitWhere] at member
    split at member
    · rcases List.mem_cons.mp member with rfl | member
      · simp
      · exact ih member
    · rename_i other
      obtain ⟨first, more, pieces⟩ := List.exists_cons_of_ne_nil (splitWhere_ne_nil sep rest)
      rw [pieces, List.modifyHead_cons] at member
      rcases List.mem_cons.mp member with rfl | member
      · intro d inside
        rcases List.mem_cons.mp inside with rfl | inside
        · exact Bool.eq_false_iff.mpr other
        · exact ih (pieces ▸ List.mem_cons_self) d inside
      · exact ih (pieces ▸ List.mem_cons_of_mem _ member)

theorem mem_of_mem_splitWhere {sep : Char → Bool} {s piece : List Char} {c : Char}
    (member : piece ∈ splitWhere sep s) (inside : c ∈ piece) : c ∈ s := by
  induction s generalizing piece with
  | nil =>
    obtain rfl := List.mem_singleton.mp member
    cases inside
  | cons d s hyp =>
    rw [splitWhere] at member
    split at member
    · obtain rfl | member := List.mem_cons.mp member
      · cases inside
      · exact List.mem_cons_of_mem d (hyp member inside)
    · obtain ⟨first, more, pieces⟩ := List.exists_cons_of_ne_nil (splitWhere_ne_nil sep s)
      rw [pieces, List.modifyHead_cons] at member
      obtain rfl | member := List.mem_cons.mp member
      · obtain rfl | inside := List.mem_cons.mp inside
        · exact List.mem_cons_self
        · exact List.mem_cons_of_mem d (hyp (pieces ▸ List.mem_cons_self) inside)
      · exact List.mem_cons_of_mem d (hyp (pieces ▸ List.mem_cons_of_mem first member) inside)

theorem mem_joinWith {sep : List Char} {pieces : List (List Char)} {c : Char}
    (member : c ∈ joinWith sep pieces) : c ∈ sep ∨ ∃ piece ∈ pieces, c ∈ piece := by
  induction pieces with
  | nil => cases member
  | cons first more hyp =>
    cases more with
    | nil => exact .inr ⟨first, List.mem_singleton_self first, by simpa [joinWith] using member⟩
    | cons second more =>
      have parts : c ∈ first ∨ c ∈ sep ∨ c ∈ joinWith sep (second :: more) := by
        simpa [joinWith, List.intercalate] using member
      obtain own | between | behind := parts
      · exact .inr ⟨first, List.mem_cons_self, own⟩
      · exact .inl between
      · obtain between | ⟨piece, inside, own⟩ := hyp behind
        · exact .inl between
        · exact .inr ⟨piece, List.mem_cons_of_mem first inside, own⟩

theorem not_mem_of_mem_pieces {sep : Char} {text piece : String}
    (member : piece ∈ pieces sep text) : sep ∉ piece.toList := by
  obtain ⟨chars, inside, rfl⟩ := List.mem_map.mp member
  rw [String.toList_ofList]
  intro found
  exact absurd (sep_eq_false_of_mem_splitWhere inside sep found) (by simp)

theorem pieces_ne_nil (sep : Char) (text : String) : pieces sep text ≠ [] := by
  simp [pieces, splitOn, splitWhere_ne_nil]

theorem intercalate_pieces (sep : Char) (text : String) :
    (String.singleton sep).intercalate (pieces sep text) = text := by
  apply String.toList_injective
  have joined := joinWith_splitOn sep text.toList
  simpa [pieces, joinWith, Function.comp_def] using joined

theorem pieces_append (sep : Char) (front back : String) :
    pieces sep (front ++ String.singleton sep ++ back) = pieces sep front ++ pieces sep back := by
  simp [pieces, splitOn, splitWhere_eq_splitOnP, List.splitOnP_append_cons]

theorem pieces_singleton {sep : Char} {piece : String} (kept : sep ∉ piece.toList) :
    pieces sep piece = [piece] := by
  simp [pieces, splitOn_eq, List.splitOn_eq_singleton kept]

theorem pieces_sep_append (sep : Char) (text : String) :
    pieces sep (String.singleton sep ++ text) = "" :: pieces sep text := by
  simp [pieces, splitOn, splitWhere]

/-- Splitting inverts putting pieces together with a separator that none of them holds. -/
theorem pieces_intercalate {sep : Char} {names : List String} (some : names ≠ [])
    (kept : ∀ name ∈ names, sep ∉ name.toList) :
    pieces sep ((String.singleton sep).intercalate names) = names := by
  have apart : ∀ chars ∈ names.map String.toList, sep ∉ chars := by simpa using kept
  rw [pieces, splitOn_eq, String.toList_intercalate, String.toList_singleton,
    List.splitOn_intercalate sep apart (by simpa using some)]
  simp [Function.comp_def]

end OptionProtocol.Text
