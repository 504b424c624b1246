import OptionProtocol.Name.Dotted
import OptionProtocol.Proofs.Text.Pieces

/-! Dotted names taken apart. The last dot of a name stands between a module and a class in it. -/

set_option autoImplicit false

namespace OptionProtocol.Name

/-- The name is that of a class in a module. -/
structure Splits (dotted module name : String) : Prop where
  whole : dotted = module ++ "." ++ name
  plain : '.' ∉ name.toList

variable {dotted module name : String}

theorem intercalate_concat {front : List String} (some : front ≠ []) (part : String) :
    ".".intercalate (front ++ [part]) = ".".intercalate front ++ "." ++ part := by
  induction front with
  | nil => exact absurd rfl some
  | cons first front ih =>
    cases front with
    | nil => simp [String.intercalate_cons_cons]
    | cons second front =>
      have rest := ih (by simp)
      simp only [List.cons_append] at rest
      simp only [List.cons_append, String.intercalate_cons_cons, rest, String.append_assoc]

theorem intercalate_parts (dotted : String) : ".".intercalate (parts dotted) = dotted :=
  Text.intercalate_pieces '.' dotted

theorem parts_eq (dotted : String) : parts dotted = (parts dotted).dropLast ++ [last dotted] := by
  have some : parts dotted ≠ [] := Text.pieces_ne_nil '.' dotted
  rw [last, List.getLast?_eq_some_getLast some, Option.getD_some, List.dropLast_concat_getLast]

theorem dot_not_mem_last (dotted : String) : '.' ∉ (last dotted).toList := by
  have own : last dotted ∈ parts dotted := by
    rw [parts_eq]
    simp
  exact Text.not_mem_of_mem_pieces own

theorem dropLast_parts_ne_nil (dot : '.' ∈ dotted.toList) : (parts dotted).dropLast ≠ [] := by
  intro none
  have whole := intercalate_parts dotted
  rw [parts_eq, none, List.nil_append, String.intercalate_singleton] at whole
  exact dot_not_mem_last dotted (by rwa [whole])

theorem splits_path_last (dot : '.' ∈ dotted.toList) : Splits dotted (path dotted) (last dotted) where
  whole := by
    have whole := intercalate_parts dotted
    rw [parts_eq, intercalate_concat (dropLast_parts_ne_nil dot)] at whole
    exact whole.symm
  plain := dot_not_mem_last dotted

/-- There is only one way to take a name apart. -/
theorem Splits.eq (splits : Splits dotted module name) : path dotted = module ∧ last dotted = name := by
  have joined : parts dotted = parts module ++ [name] := by
    rw [splits.whole, parts, parts, ← Text.pieces_singleton splits.plain]
    exact Text.pieces_append '.' module name
  simp [path, last, joined, intercalate_parts]

theorem Splits.dot_mem (splits : Splits dotted module name) : '.' ∈ dotted.toList := by
  simp [splits.whole]

theorem path_ne_empty (dot : '.' ∈ dotted.toList) (filled : ∀ part ∈ parts dotted, part ≠ "") :
    path dotted ≠ "" := by
  obtain ⟨first, more, split⟩ := List.exists_cons_of_ne_nil (dropLast_parts_ne_nil dot)
  have own : first ∈ parts dotted := List.dropLast_subset _ (split ▸ List.mem_cons_self)
  rw [path, split]
  cases more with
  | nil => simpa using filled first own
  | cons second more => simp [String.intercalate_cons_cons]

theorem path?_eq (dot : '.' ∈ dotted.toList) (filled : ∀ part ∈ parts dotted, part ≠ "") :
    path? dotted = some (path dotted) := if_neg (path_ne_empty dot filled)

theorem path_eq_empty (plain : '.' ∉ dotted.toList) : path dotted = "" := by
  rw [path, parts, Text.pieces_singleton plain]
  rfl

end OptionProtocol.Name
