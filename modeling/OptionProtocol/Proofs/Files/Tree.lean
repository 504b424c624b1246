import OptionProtocol.Proofs.Files.Growth

/-! Trees in which everything stands in a directory, and paths that turn back behind something
that is not there. Directories for any other path are made in full or not at all. -/

set_option autoImplicit false

namespace OptionProtocol.Files

/-- What is anywhere is in a directory, and paths start from a directory. -/
structure IsTree (files : Files) : Prop where
  here : files.node? files.here = some .directory
  above : ∀ place node, files.node? place = some node →
    files.node? place.dropLast = some .directory

variable {files after : Files} {path : FilePath} {place start : Place} {node : Node}
  {names : List String}

theorem isTree_of_nodes (here : files.node? files.here = some .directory)
    (above : ∀ entry ∈ files.nodes, files.node? entry.1.dropLast = some .directory) :
    files.IsTree where
  here := here
  above place node found := by
    unfold node? at found
    split at found
    · rename_i root
      rw [List.isEmpty_iff.mp root]
      rfl
    · exact above (place, node) (Table.mem_of_lookup found)

namespace IsTree

theorem put (tree : files.IsTree) (parent : files.node? place.dropLast = some .directory)
    (filled : place ≠ []) (stays : files.node? place = some .directory → node = .directory) :
    (files.put place node).IsTree := by
  have directory (other : Place) (found : files.node? other = some .directory) :
      (files.put place node).node? other = some .directory := by
    rw [node?_put filled]
    split
    · rename_i same
      rw [stays (same ▸ found)]
    · exact found
  refine ⟨directory _ tree.here, fun other held found => ?_⟩
  rw [node?_put filled] at found
  split at found
  · rename_i same
    exact same ▸ directory _ parent
  · exact directory _ (tree.above other held found)

/-- Where nothing is, there is nothing below either. -/
theorem below (tree : files.IsTree) (free : files.node? place = none) (names : List String) :
    files.node? (place ++ names) = none := by
  induction names generalizing place with
  | nil => simpa using free
  | cons name rest ih =>
    have next : files.node? (place ++ [name]) = none := by
      cases found : files.node? (place ++ [name]) with
      | none => rfl
      | some node =>
        have above := tree.above _ _ found
        rw [List.dropLast_concat, free] at above
        cases above
    simpa using ih next

theorem above_walk (tree : files.IsTree) (parent : files.node? start.dropLast = some .directory)
    (ok : files.walk start names = .ok place) :
    files.node? place.dropLast = some .directory := by
  induction names generalizing start with
  | nil =>
    cases ok
    exact parent
  | cons name rest ih =>
    obtain ⟨directory, ok⟩ := walk_cons_ok ok
    refine ih ?_ ok
    split
    · exact tree.above _ _ parent
    · rwa [List.dropLast_concat]

theorem above_locate (tree : files.IsTree) (leads : files.locate path = .ok place) :
    files.node? place.dropLast = some .directory := by
  refine tree.above_walk ?_ leads
  split
  · rfl
  · exact tree.above _ _ tree.here

theorem makeDirectory (tree : files.IsTree) (ok : files.makeDirectory path = .ok after) :
    after.IsTree := by
  obtain ⟨place, leads, free, rfl⟩ := makeDirectory_ok ok
  exact tree.put (tree.above_locate leads) (ne_root_of_node? (by simp) free) fun _ => rfl

end IsTree

/-- A walk that fails has stopped at something that is no directory. -/
theorem walk_error {cause : OsCause} (failed : files.walk start names = .error cause) :
    ∃ front back place, names = front ++ back ∧ back ≠ [] ∧
      files.walk start front = .ok place ∧ files.node? place ≠ some .directory ∧
      (cause = .noSuchFile → files.node? place = none) := by
  induction names generalizing start with
  | nil => cases failed
  | cons name rest ih =>
    rw [Files.walk] at failed
    split at failed
    · rename_i directory
      obtain ⟨front, back, place, rfl, more, ok, blocked⟩ := ih failed
      refine ⟨name :: front, back, place, rfl, more, ?_, blocked⟩
      rw [Files.walk, directory]
      exact ok
    · rename_i file
      cases failed
      exact ⟨[], _, start, rfl, by simp, rfl, by simp [file], by simp⟩
    · rename_i free
      cases failed
      exact ⟨[], _, start, rfl, by simp, rfl, by simp [free], fun _ => free⟩

/-- Behind a name that leads nowhere, the path goes up again. -/
def Detours (files : Files) (path : FilePath) : Prop :=
  ∃ front back place, path.names = front ++ back ∧ ".." ∈ back ∧
    files.locate ⟨path.start, front⟩ = .ok place ∧ files.node? place = none

theorem detours_of_parent (detours : files.Detours path.parent) : files.Detours path := by
  obtain ⟨front, back, place, split, up, leads, free⟩ := detours
  by_cases empty : path.names = []
  · refine ⟨front, back, place, ?_, up, leads, free⟩
    rw [← split]
    simp [FilePath.parent, empty]
  · refine ⟨front, back ++ [path.names.getLast empty], place, ?_, by simp [up], leads, free⟩
    rw [← List.append_assoc, ← split]
    exact (List.dropLast_concat_getLast empty).symm

theorem find?_eq_some : files.find? path = some node ↔
    ∃ place, files.locate path = .ok place ∧ files.node? place = some node := by
  unfold find?
  cases files.locate path <;> simp

section

variable {made written : Place → Prop} {before : Files} {content : Content}

/-- What a path leads to in the grown tree, it led to before if anything was there. -/
theorem Grows.locate_before (grows : Grows made written before after) (tree : before.IsTree)
    (straight : ∀ place, made place → ¬before.Detours path)
    (leads : after.locate path = .ok place) (there : before.node? place ≠ none) :
    before.locate path = .ok place := by
  cases found : before.locate path with
  | ok other =>
    cases leads.symm.trans (grows.locate found)
    rfl
  | error cause =>
    obtain ⟨front, back, stop, split, more, passed, blocked, _⟩ := walk_error found
    obtain ⟨name, rest, rfl⟩ := List.exists_cons_of_ne_nil more
    -- The grown tree has a directory where the walk stopped before.
    have walked : after.walk stop (name :: rest) = .ok place := by
      have onward := grows.walk passed
      rw [Files.locate, split, walk_append, grows.here, onward] at leads
      exact leads
    have opened := (walk_cons_ok walked).1
    have change := grows.changes stop
    rw [opened] at change
    generalize held : before.node? stop = first at change
    cases change with
    | same => exact absurd held blocked
    | made allowed =>
      have down : ".." ∉ name :: rest := fun up =>
        straight stop allowed ⟨front, name :: rest, stop, split, up, passed, held⟩
      rw [walk_down down walked] at there
      exact absurd (tree.below held _) there

/-- A file that was not written is found where it was, and none is found anew. -/
theorem Grows.file_iff (grows : Grows made written before after) (tree : before.IsTree)
    (straight : ∀ place, made place → ¬before.Detours path)
    (unwritten : ∀ place, after.locate path = .ok place → ¬written place) :
    after.find? path = some (.file content) ↔ before.find? path = some (.file content) := by
  simp only [find?_eq_some]
  constructor
  · rintro ⟨place, leads, held⟩
    have change := grows.changes place
    rw [held] at change
    generalize found : before.node? place = first at change
    cases change with
    | same => exact ⟨place, grows.locate_before tree straight leads (by simp [found]), found⟩
    | written allowed _ => exact absurd allowed (unwritten place leads)
  · rintro ⟨place, leads, held⟩
    have leads := grows.locate leads
    have change := grows.changes place
    rw [held] at change
    generalize found : after.node? place = second at change
    cases change with
    | same => exact ⟨place, leads, found⟩
    | written allowed _ => exact absurd allowed (unwritten place leads)

end

/-- The last name of a path, apart from those before it. -/
theorem parent_append {name : String} (split : path.names = path.parent.names ++ [name]) :
    path = ⟨path.parent.start, path.parent.names ++ [name]⟩ := by
  rw [← split]
  rfl

theorem locate_of_parent {name : String} (split : path.names = path.parent.names ++ [name])
    (down : name ≠ "..") (leads : files.locate path.parent = .ok place)
    (directory : files.node? place = some .directory) :
    files.locate path = .ok (place ++ [name]) := by
  rw [parent_append split, locate_append, leads]
  simp [Except.bind, Files.walk, directory, down]

theorem isDirectory_iff : files.isDirectory path = true ↔
    ∃ place, files.locate path = .ok place ∧ files.node? place = some .directory := by
  rw [isDirectory, beq_iff_eq, find?_eq_some]

/-- A directory with nothing in it. -/
structure IsEmptyAt (files : Files) (place : Place) : Prop where
  directory : files.node? place = some .directory
  free : ∀ name, files.node? (place ++ [name]) = none

theorem isEmptyAt_put (tree : files.IsTree) (free : files.node? place = none) :
    (files.put place .directory).IsEmptyAt place := by
  have filled := ne_root_of_node? (by simp) free
  refine ⟨by rw [node?_put filled, if_pos rfl], fun name => ?_⟩
  rw [node?_put filled, if_neg (by simp)]
  exact tree.below free [name]

theorem makeDirectory_error {fault : OsFault} (failed : files.makeDirectory path = .error fault)
    (missing : fault.cause = .noSuchFile) : files.locate path = .error .noSuchFile := by
  unfold Files.makeDirectory at failed
  split at failed
  · rename_i cause stopped
    cases failed
    rw [stopped, ← missing]
  · split at failed <;> cases failed
    cases missing

/-- The ends of the making of directories: nothing is done, or the last one is new. -/
inductive Ensured (files : Files) (path : FilePath) : Files × Option OsFault → Prop where
  | refused (fault : OsFault) : Ensured files path (files, some fault)
  | there (found : files.isDirectory path = true) : Ensured files path (files, none)
  | made {after : Files} {place : Place} (tree : after.IsTree)
      (leads : after.locate path = .ok place) (empty : after.IsEmptyAt place) :
      Ensured files path (after, none)

theorem ensured_put (tree : files.IsTree) (ok : files.makeDirectory path = .ok after) :
    after.IsTree ∧ ∃ place, after.locate path = .ok place ∧ after.IsEmptyAt place := by
  refine ⟨tree.makeDirectory ok, ?_⟩
  have paves := paves_makeDirectory ok
  obtain ⟨place, leads, free, rfl⟩ := makeDirectory_ok ok
  exact ⟨place, paves.locate leads, isEmptyAt_put tree free⟩

/-- What cannot be made for want of what is above it can be made in a new, empty directory. -/
theorem exists_makeDirectory {middle : Files} (straight : ¬files.Detours path)
    (missing : files.locate path = .error .noSuchFile) (some : path.names ≠ [])
    (leads : middle.locate path.parent = .ok place) (empty : middle.IsEmptyAt place) :
    ∃ after, middle.makeDirectory path = .ok after := by
  have split := (List.dropLast_concat_getLast some).symm
  obtain ⟨front, back, blocked, whole, more, ok, _, free⟩ := walk_error missing
  have down : path.names.getLast some ≠ ".." := by
    intro up
    refine straight ⟨front, back, blocked, whole, ?_, ok, free rfl⟩
    rw [← up]
    simp only [whole, List.getLast_append_of_ne_nil _ more]
    exact List.getLast_mem more
  have found := locate_of_parent split down leads empty.directory
  have free := empty.free (path.names.getLast some)
  refine ⟨middle.put (place ++ [path.names.getLast some]) .directory, ?_⟩
  simp only [Files.makeDirectory, found, free]

theorem not_isDirectory_parent (missing : files.locate path = .error .noSuchFile)
    (some : path.names ≠ []) : ¬files.isDirectory path.parent = true := by
  intro there
  obtain ⟨place, leads, directory⟩ := isDirectory_iff.mp there
  rw [parent_append (List.dropLast_concat_getLast some).symm, locate_append, leads] at missing
  simp [Except.bind, Files.walk, directory] at missing

theorem ensureDirectory_of_makeDirectory (ok : files.makeDirectory path = .ok after) :
    files.ensureDirectory path = .ok after := by
  simp only [ensureDirectory, ok]

theorem Ensured.ensureDirectory {middle : Files} (above : Ensured files path.parent (middle, none))
    (straight : ¬files.Detours path) (missing : files.locate path = .error .noSuchFile)
    (some : path.names ≠ []) :
    ∃ after, middle.ensureDirectory path = .ok after ∧ after.IsTree ∧
      ∃ place, after.locate path = .ok place ∧ after.IsEmptyAt place := by
  cases above with
  | there found => exact absurd found (not_isDirectory_parent missing some)
  | made tree leads empty =>
    obtain ⟨after, made⟩ := exists_makeDirectory straight missing some leads empty
    exact ⟨after, ensureDirectory_of_makeDirectory made, ensured_put tree made⟩

-- The recursion is on the path. A directory that was made on the way is empty, so that the next
-- one can be made in it: nothing can fail behind it.
theorem ensured (tree : files.IsTree) (straight : ¬files.Detours path) :
    Ensured files path (files.ensureDirectories path) := by
  fun_induction ensureDirectories files path with
  | case1 path after made =>
    obtain ⟨grown, place, leads, empty⟩ := ensured_put tree made
    exact .made grown leads empty
  | case2 => exact .refused _
  | case3 path fault failed missing some after fault' above ih =>
    have ends := ih (straight ∘ detours_of_parent)
    rw [above] at ends
    cases ends
    exact .refused _
  | case4 path fault failed missing some middle above after ok ih =>
    have ends := ih (straight ∘ detours_of_parent)
    rw [above] at ends
    obtain ⟨made, ok', grown, place, leads, empty⟩ :=
      ends.ensureDirectory straight (makeDirectory_error failed missing) some
    cases ok.symm.trans ok'
    exact .made grown leads empty
  | case5 path fault failed missing some middle above fault' refused ih =>
    have ends := ih (straight ∘ detours_of_parent)
    rw [above] at ends
    obtain ⟨made, ok, _⟩ :=
      ends.ensureDirectory straight (makeDirectory_error failed missing) some
    cases refused.symm.trans ok
  | case6 path fault _ _ found => exact .there found
  | case7 => exact .refused _

end OptionProtocol.Files
