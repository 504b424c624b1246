import OptionProtocol.Proofs.Batch.Containment
import OptionProtocol.Proofs.Files.Tree

/-! Definitions that fail leave the tree as it was: either no directory is made for them, or
their module is written. Only behind a name that leads nowhere can a path go up again and be
blocked when directories were made for it. -/

set_option autoImplicit false

namespace OptionProtocol

open Files FilePath

variable {g : Generator} {options : BatchOptions} {web : Web} {files after : Files}
  {path directory : FilePath} {code source message : String} {makes : Bool}
  {fault : TransferFault}

/-- Names that lead down do not make a path go up again. -/
theorem Files.detours_of_append {names : List String} (down : ".." ∉ names)
    (detours : files.Detours ⟨directory.start, directory.names ++ names⟩) :
    files.Detours directory := by
  obtain ⟨front, back, place, split, up, leads, free⟩ := detours
  rcases List.append_eq_append_iff.mp split with ⟨more, rfl, rfl⟩ | ⟨more, part, rfl⟩
  · exact absurd (List.mem_append_right _ up) down
  · exact ⟨front, more, place, part, (List.mem_append.mp up).resolve_right down, leads, free⟩

theorem attempt_fault (failed : attempt files path code = (after, some fault)) :
    after = files := by
  unfold attempt at failed
  split at failed <;> cases failed
  rfl

/-- In a new directory there is room for a file. -/
theorem attempt_of_empty {place : Place} {name : String}
    (split : path.names = path.parent.names ++ [name]) (down : name ≠ "..")
    (leads : files.locate path.parent = .ok place) (empty : files.IsEmptyAt place) :
    (attempt files path code).2 = none := by
  have found := locate_of_parent split down leads empty.directory
  have free := empty.free name
  simp only [attempt, Files.write, found, free]

/-- When nothing was written, the tree was left alone or stands as the making of directories
left it. -/
theorem writeOutput_fault_cases (failed : writeOutput files path code makes = (after, some fault)) :
    after = files ∨ makes = true ∧ ∃ ended, files.ensureDirectories path.parent = (after, ended) ∧
      (ended = none → (attempt after path code).2 ≠ none) := by
  rw [writeOutput_eq] at failed
  split at failed
  · exact .inl (attempt_fault failed)
  · split at failed
    · cases failed
      exact .inl rfl
    · rename_i makes_
      refine .inr ⟨by simpa using makes_, ?_⟩
      split at failed
      · rename_i made
        obtain rfl := attempt_fault failed
        exact ⟨none, made, fun _ => by simp [failed]⟩
      · rename_i refused
        cases failed
        exact ⟨_, refused, nofun⟩

theorem writeOutput_fault_grows (failed : writeOutput files path code makes = (after, some fault)) :
    Grows (fun place => makes = true ∧ after.OnWay path.parent place) (fun _ => False) files
      after := by
  rcases writeOutput_fault_cases failed with rfl | ⟨makes_, ended, ensured, _⟩
  · exact .refl _
  · have paves := paves_ensureDirectories files path.parent
    rw [ensured] at paves
    exact paves.mono (fun _ passed => ⟨makes_, passed⟩) fun _ => id

theorem writeOutput_of_unmade {unmade : OsFault} (code : String)
    (missing : files.isDirectory path.parent = false)
    (failed : files.ensureDirectories path.parent = (after, some unmade)) :
    writeOutput files path code true = (after, some (.noNewDirectory path.parent unmade)) := by
  rw [writeOutput_eq, missing, failed]
  rfl

-- What was made for the path is empty at its end, so that the file can be written there.
theorem writeOutput_fault {name : String} (tree : files.IsTree)
    (straight : ¬(makes = true ∧ files.Detours path.parent))
    (split : path.names = path.parent.names ++ [name]) (down : name ≠ "..")
    (failed : writeOutput files path code makes = (after, some fault)) : after = files := by
  rcases writeOutput_fault_cases failed with same | ⟨makes_, ended, made, unwritten⟩
  · exact same
  · have ends := ensured tree (straight ⟨makes_, ·⟩)
    rw [made] at ends
    cases ends with
    | refused => rfl
    | there => rfl
    | made _ leads empty => exact absurd (attempt_of_empty split down leads empty) (unwritten rfl)

namespace Batch

/-- A source that failed was not drafted, or its module was not written. -/
theorem Fails.cases (failed : Fails g options web files source message) :
    (process g options web files source).files = files ∨
      ∃ d code after fault, Definition.Accepted d ∧
        writeOutput files (outputPath g options d) code options.makesDirectories =
          (after, some fault) ∧
        (process g options web files source).files = after := by
  unfold Fails at failed
  simp only [process] at failed ⊢
  split at failed
  · cases failed
  · exact .inl rfl
  · exact .inl rfl
  · rename_i d generated drafted
    simp only [store] at failed ⊢
    split at failed
    · cases failed
    · rename_i after fault tried
      exact .inr ⟨d, generated.code, after, fault, accepted_of_draft drafted, tried, rfl⟩

variable {state last : BatchRun} {d : Definition}

theorem parent_outputPath (accepted : d.Accepted) (named : g.NamesFiles)
    (options : BatchOptions) : (outputPath g options d).parent =
      ⟨options.outputDirectory.start,
        options.outputDirectory.names ++ options.packageNames d⟩ := by
  simp [outputPath_eq accepted named, FilePath.parent, ← List.append_assoc]

theorem not_up_packageNames (accepted : d.Accepted) (options : BatchOptions) :
    ".." ∉ options.packageNames d :=
  fun up => (accepted.packageNames options _ up).notAbove rfl

theorem Fails.grows (named : g.NamesFiles) (failed : Fails g options web files source message) :
    Grows
      (fun place => options.makesDirectories = true ∧
        ((process g options web files source).files.Inside options.outputDirectory place ∨
          (process g options web files source).files.OnWay options.outputDirectory place))
      (fun _ => False) files (process g options web files source).files := by
  rcases failed.cases with same | ⟨d, code, after, fault, accepted, tried, left⟩
  · rw [same]
    exact .refl _
  · rw [left]
    refine (writeOutput_fault_grows tried).mono ?_ fun _ => id
    rintro place ⟨makes, passed⟩
    rw [parent_outputPath accepted named] at passed
    exact ⟨makes, onWay_append (not_up_packageNames accepted options) passed⟩

theorem Fails.files_eq (named : g.NamesFiles) (tree : files.IsTree)
    (straight : ¬(options.makesDirectories = true ∧ files.Detours options.outputDirectory))
    (failed : Fails g options web files source message) :
    (process g options web files source).files = files := by
  rcases failed.cases with same | ⟨d, code, after, fault, accepted, tried, left⟩
  · exact same
  · rw [left]
    have parent := parent_outputPath accepted named options
    refine writeOutput_fault tree ?_ ?_ (named d accepted).notAbove tried
    · rintro ⟨makes, detours⟩
      rw [parent] at detours
      exact straight ⟨makes, detours_of_append (not_up_packageNames accepted options) detours⟩
    · rw [parent]
      simp [outputPath_eq accepted named]

/-- What comes of a source that fails and is the last one. -/
theorem Fails.run_alone (failed : Fails g options web state.files source message) :
    (run g options web state [source]).report.written = state.report.written ∧
      (run g options web state [source]).report.warnings = state.report.warnings ∧
      (run g options web state [source]).report.errors = state.report.errors ++ [message] ∧
      (run g options web state [source]).files =
        (process g options web state.files source).files := by
  rw [run_of_fails failed]
  split <;> exact ⟨rfl, rfl, rfl, rfl⟩

/-- A definition that fails leaves no trace but its message, except that with an output directory
that goes up again behind a missing one, new directories may stay. -/
theorem run_fails_traceless (named : g.NamesFiles) (tree : state.files.IsTree)
    (failed : Fails g options web state.files source message)
    (ends : run g options web state [source] = last) :
    last.report.written = state.report.written ∧
      last.report.warnings = state.report.warnings ∧
      last.report.errors = state.report.errors ++ [message] ∧
      (¬(options.makesDirectories = true ∧ state.files.Detours options.outputDirectory) →
        last.files = state.files) ∧
      Grows
        (fun place => options.makesDirectories = true ∧
          (last.files.Inside options.outputDirectory place ∨
            last.files.OnWay options.outputDirectory place))
        (fun _ => False) state.files last.files := by
  subst ends
  obtain ⟨written, warnings, errors, files⟩ := failed.run_alone
  refine ⟨written, warnings, errors, fun straight => ?_, ?_⟩
  · rw [files, failed.files_eq named tree straight]
  · rw [files]
    exact failed.grows named

end Batch

namespace Workshop

open Batch

/-- A file stands where the modules should go. -/
def blocked : Files := tree.put ["out"] (.file (.text ""))

theorem isTree_blocked : blocked.IsTree := isTree_of_nodes rfl (by decide)

def intoFile : BatchOptions where
  outputDirectory := ⟨.here, ["out", "deep"]⟩
  makesDirectories := true

theorem blocked_drafted : ∃ generated,
    (draft python offline blocked "tool.json").result = .ok (.done tool.definition generated) := by
  have loaded : (loadDefinition blocked offline "tool.json").result = .ok tool.definition := by
    rw [← tool_loaded]
    refine congrArg Logged.result (loadDefinition_congr fun given found => loadFile_congr ?_)
    cases ofText?_tool.symm.trans found
    exact fun content => Iff.rfl
  obtain ⟨code, emitted⟩ := python_emits
  exact ⟨_, draft_of_load loaded emitted⟩

/-- The module is refused when its directory cannot be made. -/
theorem fails_of_unmade {options : BatchOptions} {after : Files} {unmade : OsFault}
    {path : FilePath} (makes : options.makesDirectories = true)
    (leads : outputPath python options tool.definition = path)
    (missing : blocked.isDirectory path.parent = false)
    (failed : blocked.ensureDirectories path.parent = (after, some unmade)) :
    ∃ message, Fails python options offline blocked "tool.json" message ∧
      (process python options offline blocked "tool.json").files = after := by
  obtain ⟨generated, drafted⟩ := blocked_drafted
  have refused := writeOutput_of_unmade generated.code missing failed
  rw [← leads, ← makes] at refused
  exact ⟨_, fails_of_refused drafted refused⟩

theorem intoFile_fails : ∃ message, Fails python intoFile offline blocked "tool.json" message ∧
    (process python intoFile offline blocked "tool.json").files = blocked := by
  have failed : blocked.ensureDirectories ⟨.here, ["out", "deep"]⟩ =
      (blocked, some ⟨.notDirectory, ⟨.here, ["out", "deep"]⟩⟩) := by
    rw [ensureDirectories]
    rfl
  exact fails_of_unmade rfl (outputPath_tool intoFile rfl) rfl failed

theorem beside_fails : ∃ message, Fails python beside offline blocked "tool.json" message ∧
    (process python beside offline blocked "tool.json").files =
      blocked.put ["new"] .directory := by
  have failed : blocked.ensureDirectories ⟨.here, ["new", "..", "out"]⟩ =
      (blocked.put ["new"] .directory, some ⟨.fileExists, ⟨.here, ["new", "..", "out"]⟩⟩) :=
    ensureDirectories_of_blocked rfl rfl (by decide)
      (ensureDirectories_of_above rfl rfl (by decide) (ensureDirectories_of_made rfl) rfl) rfl
  exact fails_of_unmade rfl (outputPath_tool beside rfl) rfl failed

end Workshop

open Workshop in
theorem run_fails_traceless_intoFile :
    python.NamesFiles ∧ blocked.IsTree ∧
      ∃ message last, Batch.Fails python intoFile offline blocked "tool.json" message ∧
        Batch.run python intoFile offline { files := blocked } ["tool.json"] = last ∧
        last.report.written = [] ∧ last.report.warnings = [] ∧
        last.report.errors = [message] ∧ last.files = blocked := by
  obtain ⟨message, failed, _⟩ := intoFile_fails
  have named : python.NamesFiles := Python.namesFiles {} {}
  have failed_ : Batch.Fails python intoFile offline (BatchRun.files { files := blocked })
      "tool.json" message := failed
  obtain ⟨written, warnings, errors, files, _⟩ :=
    Batch.run_fails_traceless named isTree_blocked failed_ rfl
  refine ⟨named, isTree_blocked, message, _, failed, rfl, written, warnings, errors, files ?_⟩
  rintro ⟨_, front, back, place, split, up, _⟩
  have down : ".." ∉ intoFile.outputDirectory.names := by decide
  exact down (split ▸ List.mem_append_right _ up)

open Workshop in
/-- A directory that was made on the way stays when the way is blocked behind it. -/
theorem run_fails_leavesDirectory :
    ∃ message last, Batch.Fails python beside offline blocked "tool.json" message ∧
      Batch.run python beside offline { files := blocked } ["tool.json"] = last ∧
      blocked.node? ["new"] = none ∧ last.files.node? ["new"] = some .directory := by
  obtain ⟨message, failed, left⟩ := beside_fails
  have failed_ : Batch.Fails python beside offline (BatchRun.files { files := blocked })
      "tool.json" message := failed
  refine ⟨message, _, failed, rfl, rfl, ?_⟩
  rw [failed_.run_alone.2.2.2, left]
  rfl

end OptionProtocol
