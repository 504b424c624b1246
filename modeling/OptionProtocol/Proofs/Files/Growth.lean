import OptionProtocol.Proofs.Files

/-! How a tree grows: directories are made where nothing was, files are written where no
directory is, and all the rest stays. The making of directories adds those that a path passes
and nothing else. -/

set_option autoImplicit false

namespace OptionProtocol.Files

/-- What a place holds before and after, when it may become a directory or a file. -/
inductive Change (made written : Prop) : Option Node → Option Node → Prop where
  | same {node : Option Node} : Change made written node node
  | made (allowed : made) : Change made written none (some .directory)
  | written {node : Option Node} {content : Content} (allowed : written)
      (free : node ≠ some .directory) : Change made written node (some (.file content))

/-- Only at places that satisfy `made` are there new directories, and only at those that
satisfy `written` are there new contents. -/
structure Grows (made written : Place → Prop) (before after : Files) : Prop where
  here : after.here = before.here
  changes : ∀ place, Change (made place) (written place) (before.node? place) (after.node? place)

variable {made written : Place → Prop} {files before after : Files} {path : FilePath}
  {place : Place} {names front back : List String} {start : Place}

section Change

variable {made written made' written' : Prop} {first second third : Option Node}

theorem Change.mono (change : Change made written first second) (made_ : made → made')
    (written_ : written → written') : Change made' written' first second := by
  cases change with
  | same => exact .same
  | made allowed => exact .made (made_ allowed)
  | written allowed free => exact .written (written_ allowed) free

theorem Change.trans (change : Change made written first second)
    (more : Change made written second third) : Change made written first third := by
  cases change with
  | same => exact more
  | made allowed =>
    cases more with
    | same => exact .made allowed
    | written _ free => exact absurd rfl free
  | written allowed free =>
    cases more with
    | same => exact .written allowed free
    | written => exact .written allowed free

theorem Change.directory (change : Change made written first second)
    (found : first = some .directory) : second = some .directory := by
  cases change with
  | same => exact found
  | made => rfl
  | written _ free => exact absurd found free

theorem Change.file {content : Content} (change : Change made written first second)
    (found : first = some (.file content)) : ∃ content, second = some (.file content) := by
  cases change with
  | same => exact ⟨content, found⟩
  | made => cases found
  | @written _ content => exact ⟨content, rfl⟩

end Change

namespace Grows

theorem refl (files : Files) : Grows made written files files := ⟨rfl, fun _ => .same⟩

theorem trans (first : Grows made written before files)
    (second : Grows made written files after) : Grows made written before after where
  here := second.here.trans first.here
  changes place := (first.changes place).trans (second.changes place)

theorem mono {made' written' : Place → Prop} (grows : Grows made written before after)
    (made_ : ∀ place, made place → made' place)
    (written_ : ∀ place, written place → written' place) : Grows made' written' before after where
  here := grows.here
  changes place := (grows.changes place).mono (made_ place) (written_ place)

theorem keeps {changed : List Place} (grows : Grows made written before after)
    (listed : ∀ place, written place → place ∈ changed) : Keeps changed before after where
  here := grows.here
  directories place found := (grows.changes place).directory found
  contents place content other found := by
    have change := grows.changes place
    rw [found] at change
    generalize after.node? place = second at change
    cases change with
    | same => rfl
    | written allowed => exact absurd (listed place allowed) other

theorem stay (grows : Grows made written before after) (place : Place)
    (found : before.node? place = some .directory) : after.node? place = some .directory :=
  (grows.changes place).directory found

/-- What is different was written, or it is a new directory. -/
theorem changed (grows : Grows made written before after)
    (differs : after.node? place ≠ before.node? place) :
    written place ∨
      made place ∧ before.node? place = none ∧ after.node? place = some .directory := by
  have change := grows.changes place
  generalize before.node? place = first at change differs ⊢
  generalize after.node? place = second at change differs ⊢
  cases change with
  | same => exact absurd rfl differs
  | made allowed => exact .inr ⟨allowed, rfl, rfl⟩
  | written allowed _ => exact .inl allowed

theorem walk (grows : Grows made written before after)
    (ok : before.walk start names = .ok place) : after.walk start names = .ok place :=
  walk_of_stay grows.stay ok

theorem locate (grows : Grows made written before after)
    (ok : before.locate path = .ok place) : after.locate path = .ok place := by
  rw [Files.locate, grows.here]
  exact grows.walk ok

end Grows

theorem grows_put_directory (free : files.node? place = none) (allowed : made place) :
    Grows made written files (files.put place .directory) where
  here := rfl
  changes other := by
    rw [node?_put (ne_root_of_node? (by simp) free)]
    split
    · rename_i same
      rw [same, free]
      exact .made allowed
    · exact .same

theorem grows_put_file {content : Content} (free : files.node? place ≠ some .directory)
    (allowed : written place) : Grows made written files (files.put place (.file content)) where
  here := rfl
  changes other := by
    rw [node?_put (ne_root_of_node? free rfl)]
    split
    · rename_i same
      rw [same]
      exact .written allowed free
    · exact .same

theorem makeDirectory_ok (ok : files.makeDirectory path = .ok after) :
    ∃ place, files.locate path = .ok place ∧ files.node? place = none ∧
      after = files.put place .directory := by
  unfold makeDirectory at ok
  split at ok
  · cases ok
  · rename_i place found
    split at ok
    · cases ok
    · rename_i free
      cases ok
      exact ⟨place, found, free, rfl⟩

theorem ensureDirectory_ok (ok : files.ensureDirectory path = .ok after) :
    files.makeDirectory path = .ok after ∨ files.isDirectory path = true ∧ after = files := by
  unfold ensureDirectory at ok
  split at ok
  · rename_i made
    cases ok
    exact .inl made
  · split at ok
    · rename_i there
      cases ok
      exact .inr ⟨there, rfl⟩
    · cases ok

theorem write_eq_ok {text : String} (ok : files.write path text = .ok after) :
    ∃ place, files.locate path = .ok place ∧ files.node? place ≠ some .directory ∧
      after = files.put place (.file (.text text)) := by
  unfold write at ok
  split at ok
  · cases ok
  · rename_i place found
    split at ok
    · cases ok
    · rename_i free
      cases ok
      exact ⟨place, found, free, rfl⟩

/-- A front part of the path leads to the place. -/
def OnWay (files : Files) (path : FilePath) (place : Place) : Prop :=
  ∃ front, front <+: path.names ∧ files.locate ⟨path.start, front⟩ = .ok place

theorem onWay_here (leads : files.locate path = .ok place) : files.OnWay path place :=
  ⟨path.names, List.prefix_refl _, leads⟩

theorem OnWay.of_parent (passed : files.OnWay path.parent place) : files.OnWay path place := by
  obtain ⟨front, part, leads⟩ := passed
  exact ⟨front, part.trans (List.dropLast_prefix _), leads⟩

theorem Grows.onWay (grows : Grows made written before after) (passed : before.OnWay path place) :
    after.OnWay path place := by
  obtain ⟨front, part, leads⟩ := passed
  exact ⟨front, part, grows.locate leads⟩

/-- The new directories are on the way of the path, and nothing else is new. -/
abbrev Paves (before after : Files) (path : FilePath) : Prop :=
  Grows (after.OnWay path) (fun _ => False) before after

theorem Paves.trans (first : Paves before files path) (second : Paves files after path) :
    Paves before after path :=
  Grows.trans (first.mono (fun _ => second.onWay) fun _ => id) second

theorem Paves.of_parent (paves : Paves before after path.parent) : Paves before after path :=
  paves.mono (fun _ => OnWay.of_parent) fun _ => id

theorem paves_makeDirectory (ok : files.makeDirectory path = .ok after) :
    Paves files after path := by
  obtain ⟨place, leads, free, rfl⟩ := makeDirectory_ok ok
  have grows : Grows (· = place) (fun _ => False) files (files.put place .directory) :=
    grows_put_directory free rfl
  refine grows.mono ?_ fun _ => id
  rintro _ rfl
  exact onWay_here (grows.locate leads)

theorem paves_ensureDirectory (ok : files.ensureDirectory path = .ok after) :
    Paves files after path := by
  rcases ensureDirectory_ok ok with made | ⟨_, rfl⟩
  · exact paves_makeDirectory made
  · exact .refl _

-- The recursion is on the path: first the directories above it, then the one it leads to.
theorem paves_ensureDirectories (files : Files) (path : FilePath) :
    Paves files (files.ensureDirectories path).1 path := by
  fun_induction ensureDirectories files path with
  | case1 path after made => exact paves_makeDirectory made
  | case2 => exact .refl _
  | case3 path _ _ _ _ after _ above ih =>
    rw [above] at ih
    exact ih.of_parent
  | case4 path _ _ _ _ middle above after made ih =>
    rw [above] at ih
    exact ih.of_parent.trans (paves_ensureDirectory made)
  | case5 path _ _ _ _ middle above _ _ ih =>
    rw [above] at ih
    exact ih.of_parent
  | case6 => exact .refl _
  | case7 => exact .refl _

theorem keeps_ensureDirectories (files : Files) (path : FilePath) :
    Keeps [] files (files.ensureDirectories path).1 :=
  (paves_ensureDirectories files path).keeps fun _ => False.elim

theorem grows_write {text : String} (ok : files.write path text = .ok after) :
    Grows (fun _ => False) (fun place => after.locate path = .ok place) files after := by
  obtain ⟨place, leads, free, rfl⟩ := write_eq_ok ok
  have grows : Grows (fun _ => False) (· = place) files (files.put place (.file (.text text))) :=
    grows_put_file free rfl
  exact grows.mono (fun _ => id) fun other same => same ▸ grows.locate leads

/-- The file at the end of the path is written, and nothing else changes. -/
theorem write_ok {text : String} (ok : files.write path text = .ok after) :
    ∃ place, files.locate path = .ok place ∧ Keeps [place] files after ∧
      after.node? place = some (.file (.text text)) := by
  obtain ⟨place, leads, free, rfl⟩ := write_eq_ok ok
  have grows : Grows (fun _ => False) (· = place) files (files.put place (.file (.text text))) :=
    grows_put_file free rfl
  refine ⟨place, leads, grows.keeps fun other same => List.mem_singleton.mpr same, ?_⟩
  rw [node?_put (ne_root_of_node? free rfl), if_pos rfl]

theorem ensureDirectories_of_made (made : files.makeDirectory path = .ok after) :
    files.ensureDirectories path = (after, none) := by
  rw [ensureDirectories, made]

theorem ensureDirectories_of_above {middle : Files} {fault : OsFault}
    (failed : files.makeDirectory path = .error fault) (missing : fault.cause = .noSuchFile)
    (more : path.names ≠ []) (above : files.ensureDirectories path.parent = (middle, none))
    (here : middle.ensureDirectory path = .ok after) :
    files.ensureDirectories path = (after, none) := by
  rw [ensureDirectories, failed]
  simp only [missing, if_true, if_neg more, above, here]

theorem ensureDirectories_of_blocked {middle : Files} {fault blocked : OsFault}
    (failed : files.makeDirectory path = .error fault) (missing : fault.cause = .noSuchFile)
    (more : path.names ≠ []) (above : files.ensureDirectories path.parent = (middle, none))
    (here : middle.ensureDirectory path = .error blocked) :
    files.ensureDirectories path = (middle, some blocked) := by
  rw [ensureDirectories, failed]
  simp only [missing, if_true, if_neg more, above, here]

theorem walk_append (files : Files) (start : Place) (front back : List String) :
    files.walk start (front ++ back) =
      (files.walk start front).bind fun place => files.walk place back := by
  induction front generalizing start with
  | nil => rfl
  | cons name rest ih =>
    simp only [List.cons_append, Files.walk]
    split
    · exact ih _
    · rfl
    · rfl

theorem locate_append (path : FilePath) (more : List String) :
    files.locate ⟨path.start, path.names ++ more⟩ =
      (files.locate path).bind fun place => files.walk place more :=
  walk_append files _ path.names more

/-- Names that do not lead up lead straight down. -/
theorem walk_down (down : ".." ∉ names) (ok : files.walk start names = .ok place) :
    place = start ++ names := by
  induction names generalizing start with
  | nil =>
    cases ok
    simp
  | cons name rest ih =>
    rw [List.mem_cons, not_or] at down
    obtain ⟨_, ok⟩ := walk_cons_ok ok
    rw [if_neg (Ne.symm down.1)] at ok
    simpa using ih down.2 ok

end OptionProtocol.Files
