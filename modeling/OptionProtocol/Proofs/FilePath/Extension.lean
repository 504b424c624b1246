import OptionProtocol.FilePath
import OptionProtocol.Proofs.Text.Pieces

/-! Which paths that end with the extension of JSON files lead to such a file. -/

set_option autoImplicit false

namespace OptionProtocol

namespace Text

/-- An end without a separator is the end of the last piece. -/
theorem exists_last_splitOn {sep : Char} {ending s : List Char} (apart : sep ∉ ending)
    (ends : ending <:+ s) :
    ∃ early last, splitOn sep s = early ++ [last] ∧ ending <:+ last := by
  induction s with
  | nil => exact ⟨[], [], rfl, ends⟩
  | cons c rest ih =>
    obtain rfl | ends := List.suffix_cons_iff.mp ends
    · have whole : splitOn sep (c :: rest) = [c :: rest] := by
        rw [splitOn_eq, List.splitOn_eq_singleton apart]
      exact ⟨[], c :: rest, whole, List.suffix_refl _⟩
    · obtain ⟨early, last, split, ends⟩ := ih ends
      rw [splitOn] at split ⊢
      rw [splitWhere, split]
      split
      · exact ⟨[] :: early, last, rfl, ends⟩
      · cases early with
        | nil => exact ⟨[], c :: last, rfl, ends.trans (List.suffix_cons c last)⟩
        | cons first more => exact ⟨(c :: first) :: more, last, rfl, ends⟩

end Text

namespace FilePath

variable {path : FilePath} {name : String}

/-- The last name of a path ends as the path does. -/
theorem name_ofString (ends : ".json".toList <:+ name.toList) :
    ".json".toList <:+ (ofString name).name.toList := by
  have apart : '/' ∉ ".json".toList := by decide
  obtain ⟨early, last, split, ends⟩ := Text.exists_last_splitOn apart ends
  -- The last piece is too long for one that a path leaves out.
  have long : 5 ≤ last.length := ends.length_le
  have other {short : String} (few : short.toList.length < 5) : String.ofList last ≠ short := by
    rintro rfl
    rw [String.toList_ofList] at few
    omega
  have kept : (String.ofList last != "" && String.ofList last != ".") = true := by
    simp [other (by decide : "".toList.length < 5), other (by decide : ".".toList.length < 5)]
  have names : (ofString name).names =
      ((early.map String.ofList).filter fun name => name != "" && name != ".") ++
        [String.ofList last] := by
    rw [ofString, namesOf, Text.pieces, split, List.map_append, List.filter_append,
      List.map_singleton]
    simp only [List.filter, kept]
  rw [FilePath.name, names, List.getLast?_append]
  simpa using ends

/-- A name that ends with a dot and `json` has that extension, but for one with nothing in front. -/
theorem isJson_of_ends (ends : ".json".toList <:+ path.name.toList) :
    path.isJson = true ↔ path.name ≠ ".json" := by
  obtain ⟨front, written⟩ := ends
  have small : Text.lowered ".json" = ".json" := by decide +kernel
  have extension : path.extension = if front = [] then "" else ".json" := by
    rw [FilePath.extension, ← written]
    cases front with
    | nil => rfl
    | cons c more => simp
  have alone : path.name = ".json" ↔ front = [] := by
    rw [← String.toList_inj, ← written]
    simp
  rw [isJson, extension, ne_eq, alone]
  split
  · rename_i none
    have empty : (Text.lowered "" == ".json") = false := by decide +kernel
    simp [none, empty]
  · rename_i some_
    simp [small, some_]

end FilePath

end OptionProtocol
