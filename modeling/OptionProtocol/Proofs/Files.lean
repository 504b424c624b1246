import OptionProtocol.Files
import OptionProtocol.Proofs.Table

/-! Trees of which nothing goes: directories stay, and so do the contents of files but for those
that are changed. A path that leads somewhere goes on leading there. -/

set_option autoImplicit false

namespace OptionProtocol.Files

/-- Directories stay, and so do the contents of all files but those at the changed places. -/
structure Keeps (changed : List Place) (before after : Files) : Prop where
  here : after.here = before.here
  directories : ∀ place, before.node? place = some .directory →
    after.node? place = some .directory
  contents : ∀ place content, place ∉ changed → before.node? place = some (.file content) →
    after.node? place = some (.file content)

variable {changed more : List Place} {files before after : Files} {path : FilePath}
  {place : Place}

theorem Keeps.refl (files : Files) : Keeps [] files files :=
  ⟨rfl, fun _ found => found, fun _ _ _ found => found⟩

theorem Keeps.trans (first : Keeps changed before files) (second : Keeps more files after) :
    Keeps (changed ++ more) before after where
  here := second.here.trans first.here
  directories place found := second.directories place (first.directories place found)
  contents place content other found := by
    rw [List.mem_append, not_or] at other
    exact second.contents place content other.2 (first.contents place content other.1 found)

theorem ne_root_of_node? {found : Option Node} (other : found ≠ some .directory)
    (node : files.node? place = found) : place ≠ [] := by
  rintro rfl
  exact other node.symm

theorem node?_put (filled : place ≠ []) (node : Node) (other : Place) :
    (files.put place node).node? other =
      if other = place then some node else files.node? other := by
  by_cases root : other = []
  · subst root
    simp [node?, filled.symm]
  · by_cases same : other = place
    · subst same
      simp [node?, put, root]
    · simp [node?, put, root, same, Table.lookup_cons_of_ne same, Table.lookup_filter_ne same]

theorem walk_cons_ok {name : String} {rest : List String} {start : Place}
    (ok : files.walk start (name :: rest) = .ok place) :
    files.node? start = some .directory ∧
      files.walk (if name = ".." then start.dropLast else start ++ [name]) rest = .ok place := by
  rw [walk] at ok
  split at ok
  · rename_i directory
    exact ⟨directory, ok⟩
  · cases ok
  · cases ok

/-- Names that lead to a place go on leading there as long as all directories stay. -/
theorem walk_of_stay
    (stay : ∀ place, before.node? place = some .directory → after.node? place = some .directory)
    {names : List String} {start : Place} (ok : before.walk start names = .ok place) :
    after.walk start names = .ok place := by
  induction names generalizing start with
  | nil => exact ok
  | cons name rest ih =>
    obtain ⟨directory, ok⟩ := walk_cons_ok ok
    rw [Files.walk, stay start directory]
    exact ih ok

theorem Keeps.locate (keeps : Keeps changed before after) (ok : before.locate path = .ok place) :
    after.locate path = .ok place := by
  rw [Files.locate, keeps.here]
  exact walk_of_stay keeps.directories ok

end OptionProtocol.Files
