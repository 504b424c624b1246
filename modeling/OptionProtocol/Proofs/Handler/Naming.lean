import OptionProtocol.Handler.Decoding
import OptionProtocol.Proofs.CommandLine
import OptionProtocol.Proofs.Text.Pieces

/-! The classes of option handlers are found again under their own names, which stand at the
beginning of the command lines of their objects. -/

set_option autoImplicit false

namespace OptionProtocol

namespace ClassId

/-- Objects of the class are option handlers that can be made. -/
def IsConcrete (id : ClassId) : Prop := id.isHandler = true ∧ id.instantiationFault? = none

instance (id : ClassId) : Decidable id.IsConcrete := inferInstanceAs (Decidable (_ ∧ _))

theorem pieces_name {id : ClassId} (concrete : id.IsConcrete) :
    Text.pieces '.' id.name = [id.moduleName, id.shortName] := by
  have name : id.name = (String.singleton '.').intercalate [id.moduleName, id.shortName] := by
    rw [String.intercalate_cons_cons, String.intercalate_singleton]
    rfl
  rw [name]
  -- Neither part of the name has a dot in it.
  apply Text.pieces_intercalate (by simp)
  revert concrete
  cases id <;> decide

theorem follow?_name {id : ClassId} (concrete : id.IsConcrete) :
    (Catalogue.modules.lookup id.moduleName).isSome = true ∧
      (Catalogue.Referent.moduleRef id.moduleName).follow? [id.shortName] =
        some (.classRef id) := by
  revert concrete
  cases id <;> decide

theorem moduleName_start {id : ClassId} (concrete : id.IsConcrete) :
    id.moduleName ≠ "" ∧ id.moduleName.startsWith "." = false := by
  revert concrete
  cases id <;> intro concrete <;> first
    | exact absurd concrete (by decide)
    | simp [moduleName]

/-- A class is what its name refers to. -/
theorem resolve_name {id : ClassId} (concrete : id.IsConcrete) :
    Catalogue.resolve id.name = .ok (.classRef id) := by
  obtain ⟨filled, start⟩ := moduleName_start concrete
  obtain ⟨found, follow⟩ := follow?_name concrete
  simp only [Catalogue.resolve, pieces_name concrete]
  change Catalogue.resolveFrom [id.moduleName, id.shortName] 1 = _
  simp only [Catalogue.resolveFrom, List.take, String.intercalate_singleton, filled, start,
    found, List.drop, follow]
  simp

-- The first character is that of the module's name, or a quote when the name needs one.
theorem head_commandLine {id : ClassId} (concrete : id.IsConcrete) (tokens : List String) :
    ∃ c more, (CommandLine.join (id.name :: tokens)).toList = c :: more ∧
      Text.isBlank c = false ∧ c ≠ '-' := by
  obtain ⟨more, line⟩ := CommandLine.toList_join_cons id.name tokens
  obtain ⟨c, rest, name, plain⟩ : ∃ c rest, id.name.toList = c :: rest ∧
      Text.isBlank c = false ∧ c ≠ '-' := by
    have first : ∃ c, id.moduleName.toList.head? = some c ∧ Text.isBlank c = false ∧ c ≠ '-' := by
      revert concrete
      cases id <;> intro concrete <;> first
        | exact absurd concrete (by decide)
        | exact ⟨_, rfl, by decide, by decide⟩
    obtain ⟨c, head, plain⟩ := first
    obtain ⟨rest, chars⟩ := List.head?_eq_some_iff.mp head
    exact ⟨c, rest ++ ("." ++ id.shortName).toList, by simp [name, chars], plain⟩
  rcases CommandLine.quote_eq_or id.name.toList with same | ⟨inner, quoted⟩
  · exact ⟨c, rest ++ more, by rw [line, same, name]; rfl, plain⟩
  · exact ⟨'\'', inner ++ more, by rw [line, quoted]; rfl, by decide, by decide⟩

theorem isAllBlank_commandLine {id : ClassId} (concrete : id.IsConcrete) (tokens : List String) :
    Text.isAllBlank (CommandLine.join (id.name :: tokens)) = false := by
  obtain ⟨c, more, line, blank, _⟩ := id.head_commandLine concrete tokens
  simp [Text.isAllBlank, line, blank]

end ClassId

namespace Catalogue

/-- The name begins with a dot, as those of modules do that are looked for near other ones. -/
def IsRelative (name : String) : Prop := name.toList.head? = some '.'

instance (name : String) : Decidable (IsRelative name) :=
  inferInstanceAs (Decidable (_ = _))

theorem startsWith_dot_iff {name : String} : name.startsWith "." = true ↔ IsRelative name := by
  rw [String.startsWith_string_iff, IsRelative]
  cases name.toList with
  | nil => simp
  | cons c rest => simp [eq_comm]

theorem pieces_of_isRelative {name : String} (relative : IsRelative name) :
    ∃ first more, Text.pieces '.' name = "" :: first :: more := by
  obtain ⟨rest, chars⟩ := List.head?_eq_some_iff.mp relative
  obtain rfl : name = String.singleton '.' ++ String.ofList rest := by
    apply String.toList_injective
    simp [chars]
  obtain ⟨first, more, pieces⟩ := List.exists_cons_of_ne_nil (Text.pieces_ne_nil '.' (String.ofList rest))
  exact ⟨first, more, by rw [Text.pieces_sep_append, pieces]⟩

section

variable {parts : List String} {count : Nat} {path : String}
  (front : ".".intercalate (parts.take (count + 1)) = path)

include front

theorem resolveFrom_of_empty (empty : path = "") :
    resolveFrom parts (count + 1) = .error .emptyModule := by
  simp [resolveFrom, front, empty]

theorem resolveFrom_of_isRelative (relative : IsRelative path) :
    resolveFrom parts (count + 1) = .error .relativeModule := by
  have filled : path ≠ "" := by
    rintro rfl
    simp [IsRelative] at relative
  simp only [resolveFrom, front, filled, startsWith_dot_iff.mpr relative, if_true, if_false]

theorem resolveFrom_of_plain (filled : path ≠ "") (plain : ¬IsRelative path) {fault : ResolveFault}
    (failed : resolveFrom parts (count + 1) = .error fault) :
    fault = .unknown ∨ resolveFrom parts count = .error fault := by
  simp only [resolveFrom, front, filled, startsWith_dot_iff, plain, if_false] at failed
  split_ifs at failed
  · split at failed
    · cases failed
    · exact .inl (Except.error.inj failed).symm
  · exact .inr failed

end

/-- A relative name leads nowhere, and its longest part that could be a module already tells. -/
theorem resolve_of_isRelative {name : String} (relative : IsRelative name) :
    resolve name = .error .emptyModule ∨ resolve name = .error .relativeModule := by
  obtain ⟨first, more, pieces⟩ := pieces_of_isRelative relative
  simp only [resolve, pieces, List.length_cons, Nat.add_sub_cancel]
  cases more with
  | nil => exact .inl (resolveFrom_of_empty rfl (by simp))
  | cons second more =>
    refine .inr (resolveFrom_of_isRelative rfl ?_)
    rw [List.take_succ_cons, List.length_cons, List.take_succ_cons, String.intercalate_cons_cons]
    simp [IsRelative]

theorem head?_intercalate {first : String} (filled : first ≠ "") (more : List String) :
    (".".intercalate (first :: more)).toList.head? = first.toList.head? := by
  obtain ⟨c, rest, chars⟩ :=
    List.exists_cons_of_ne_nil (mt String.toList_eq_nil_iff.mp filled)
  cases more with
  | nil => simp
  | cons next more => simp [String.intercalate_cons_cons, chars]

theorem resolveFrom_error {first : String} {more : List String} (filled : first ≠ "")
    (plain : ¬IsRelative first) {count : Nat} {fault : ResolveFault}
    (failed : resolveFrom (first :: more) count = .error fault) : fault = .unknown := by
  induction count with
  | zero => exact (Except.error.inj failed).symm
  | succ count ih =>
    have head := head?_intercalate filled (more.take count)
    have start : ¬IsRelative (".".intercalate (first :: more.take count)) := by
      rwa [IsRelative, head]
    have some : ".".intercalate (first :: more.take count) ≠ "" := by
      intro empty
      rw [empty, String.toList_empty, List.head?_nil, eq_comm, List.head?_eq_none_iff] at head
      exact filled (String.toList_eq_nil_iff.mp head)
    exact (resolveFrom_of_plain (by rw [List.take_succ_cons]) some start failed).elim id ih

/-- What is wrong with any other name is that nothing is called so. -/
theorem resolve_error {name : String} (plain : ¬IsRelative name) {fault : ResolveFault}
    (failed : resolve name = .error fault) : fault = .unknown := by
  obtain ⟨first, more, pieces⟩ := List.exists_cons_of_ne_nil (Text.pieces_ne_nil '.' name)
  have whole : ".".intercalate (Text.pieces '.' name) = name := Text.intercalate_pieces '.' name
  rw [pieces] at whole
  simp only [resolve, pieces] at failed
  cases more with
  -- Without a dot there is no module to look in.
  | nil => exact (Except.error.inj failed).symm
  | cons next more =>
    have filled : first ≠ "" := by
      rintro rfl
      rw [← whole, String.intercalate_cons_cons] at plain
      exact plain (by simp [IsRelative])
    have head := head?_intercalate filled (next :: more)
    rw [whole] at head
    exact resolveFrom_error filled (by rwa [IsRelative, ← head]) failed

end Catalogue

end OptionProtocol
