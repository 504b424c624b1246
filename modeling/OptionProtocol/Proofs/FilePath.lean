import OptionProtocol.FilePath
import OptionProtocol.Proofs.Text.Pieces

/-! A path that was read from a text is read back from its own text. A path that goes on with
a name ends with it. -/

set_option autoImplicit false

namespace OptionProtocol.FilePath

/-- The names of a path that a text can stand for: not empty, no `.`, and no slash inside. -/
def IsProper (path : FilePath) : Prop :=
  ∀ name ∈ path.names, name ≠ "" ∧ name ≠ "." ∧ '/' ∉ name.toList

theorem isProper_ofString (text : String) : (ofString text).IsProper := by
  intro name member
  obtain ⟨inside, kept⟩ := List.mem_filter.mp member
  simp only [Bool.and_eq_true, bne_iff_ne, ne_eq] at kept
  exact ⟨kept.1, kept.2, Text.not_mem_of_mem_pieces inside⟩

theorem namesOf_slash_append (text : String) : namesOf ("/" ++ text) = namesOf text := by
  change (Text.pieces '/' (String.singleton '/' ++ text)).filter _ = _
  rw [Text.pieces_sep_append]
  rfl

theorem namesOf_intercalate {path : FilePath} (proper : path.IsProper) :
    namesOf ("/".intercalate path.names) = path.names := by
  by_cases empty : path.names = []
  · rw [empty]
    decide
  · change (Text.pieces '/' ((String.singleton '/').intercalate path.names)).filter _ = _
    rw [Text.pieces_intercalate empty fun name member => (proper name member).2.2]
    rw [List.filter_eq_self]
    intro name member
    simp [(proper name member).1, (proper name member).2.1]

theorem head?_intercalate {path : FilePath} (proper : path.IsProper) :
    ("/".intercalate path.names).toList.head? ≠ some '/' := by
  cases names : path.names with
  | nil => simp
  | cons name more =>
    obtain ⟨filled, _, apart⟩ := proper name (by simp [names])
    obtain ⟨c, rest, chars⟩ : ∃ c rest, name.toList = c :: rest :=
      List.exists_cons_of_ne_nil (by simpa using filled)
    have other : c ≠ '/' := fun same => apart (by simp [chars, same])
    cases more <;> simpa [chars, List.intercalate] using other

theorem startOf_of_head? {chars : List Char} (other : chars.head? ≠ some '/') :
    startOf chars = .here ∧ startOf ('/' :: chars) = .root ∧
      startOf ('/' :: '/' :: chars) = .doubleRoot := by
  cases chars with
  | nil => exact ⟨rfl, rfl, rfl⟩
  | cons c rest =>
    have other : c ≠ '/' := by simpa using other
    simp [startOf, other]

/-- Reading the text of a path gives the path. -/
theorem ofString_text {path : FilePath} (proper : path.IsProper) : ofString path.text = path := by
  have names := namesOf_intercalate proper
  have starts := startOf_of_head? (head?_intercalate proper)
  obtain ⟨start, list⟩ := path
  simp only at names starts
  -- The names come back in all three cases; the slashes in front tell them apart.
  cases start with
  | here =>
    by_cases empty : list = []
    · subst empty
      decide
    · have filled : list.isEmpty = false := by simpa using empty
      simp only [ofString, text, filled, Bool.false_eq_true, if_false, names, starts]
  | root =>
    have first : ("/" ++ "/".intercalate list).toList = '/' :: ("/".intercalate list).toList := by
      simp
    simp only [ofString, text, first, starts, namesOf_slash_append, names]
  | doubleRoot =>
    have first : ("//" ++ "/".intercalate list).toList =
        '/' :: '/' :: ("/".intercalate list).toList := by
      simp
    have inner : "//" ++ "/".intercalate list = "/" ++ ("/" ++ "/".intercalate list) := by
      rw [← String.append_assoc]
      rfl
    simp only [ofString, text, first, starts]
    rw [inner, namesOf_slash_append, namesOf_slash_append, names]

/-- What something in a directory can be called. -/
structure IsName (name : String) : Prop where
  filled : name ≠ ""
  notHere : name ≠ "."
  notAbove : name ≠ ".."
  whole : '/' ∉ name.toList

theorem IsName.ofString {name : String} (named : IsName name) :
    ofString name = ⟨.here, [name]⟩ := by
  have proper : IsProper ⟨.here, [name]⟩ := by
    intro other member
    obtain rfl := List.mem_singleton.mp member
    exact ⟨named.filled, named.notHere, named.whole⟩
  have text : (⟨.here, [name]⟩ : FilePath).text = name := by simp [FilePath.text]
  rw [← ofString_text proper, text]

theorem IsName.join {name : String} (named : IsName name) (path : FilePath) :
    path.join name = ⟨path.start, path.names ++ [name]⟩ := by
  simp [FilePath.join, named.ofString, isAbsolute]

theorem foldl_join {names : List String} (named : ∀ name ∈ names, IsName name) (path : FilePath) :
    names.foldl FilePath.join path = ⟨path.start, path.names ++ names⟩ := by
  induction names generalizing path with
  | nil => simp
  | cons name rest ih =>
    rw [List.forall_mem_cons] at named
    rw [List.foldl_cons, named.1.join, ih named.2, List.append_assoc]
    rfl

end OptionProtocol.FilePath
