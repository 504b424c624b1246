import OptionProtocol.Proofs.Batch.Outputs
import OptionProtocol.Proofs.Emission.FileName
import OptionProtocol.Proofs.Files.Growth
import OptionProtocol.Proofs.Registry

/-! Where a batch changes the tree: below its output directory. Directories that are missing on
the way to the output directory itself are the one exception. -/

set_option autoImplicit false

namespace OptionProtocol

namespace FilePath

/-- The path goes down from the directory, along names of what a directory can hold. -/
def Extends (path directory : FilePath) : Prop :=
  ∃ names, names ≠ [] ∧ (∀ name ∈ names, IsName name) ∧
    path = ⟨directory.start, directory.names ++ names⟩

end FilePath

namespace Files

/-- The place is below the one that the path of the directory leads to. -/
def Inside (files : Files) (directory : FilePath) (place : Place) : Prop :=
  ∃ home names, files.locate directory = .ok home ∧ names ≠ [] ∧ place = home ++ names

variable {made written : Place → Prop} {files before after : Files} {path directory : FilePath}
  {place home : Place} {names front back : List String}

theorem locate_append_ok (leads : files.locate ⟨path.start, path.names ++ names⟩ = .ok place) :
    ∃ home, files.locate path = .ok home ∧ files.walk home names = .ok place := by
  rw [locate_append] at leads
  cases found : files.locate path with
  | ok home => exact ⟨home, rfl, by simpa [found, Except.bind] using leads⟩
  | error cause => simp [found, Except.bind] at leads

theorem Grows.inside (grows : Grows made written before after)
    (inside : before.Inside directory place) : after.Inside directory place := by
  obtain ⟨home, names, leads, more, split⟩ := inside
  exact ⟨home, names, grows.locate leads, more, split⟩

theorem inside_of_down (down : ".." ∉ names) (more : names ≠ [])
    (leads : files.locate ⟨directory.start, directory.names ++ names⟩ = .ok place) :
    files.Inside directory place := by
  obtain ⟨home, found, walked⟩ := locate_append_ok leads
  exact ⟨home, names, found, more, walk_down down walked⟩

/-- On the way down from a directory, one is on the way to it or below it. -/
theorem onWay_append (down : ".." ∉ names)
    (passed : files.OnWay ⟨directory.start, directory.names ++ names⟩ place) :
    files.Inside directory place ∨ files.OnWay directory place := by
  obtain ⟨front, part, leads⟩ := passed
  rcases List.prefix_or_prefix_of_prefix part (List.prefix_append _ _) with short | ⟨more, rfl⟩
  · exact .inr ⟨front, short, leads⟩
  · by_cases here : more = []
    · subst here
      exact .inr ⟨_, by simp, leads⟩
    · have inner := ((List.prefix_append_right_inj _).mp part).subset
      exact .inl (inside_of_down (fun up => down (inner up)) here leads)

/-- All that is on the way to a directory is there. -/
theorem OnWay.node? (grows : Grows made written before after)
    (there : before.isDirectory directory = true) (passed : after.OnWay directory place) :
    before.node? place = some .directory := by
  obtain ⟨front, ⟨back, split⟩, leads⟩ := passed
  simp only [isDirectory, find?, beq_iff_eq] at there
  split at there
  · rename_i home found
    obtain ⟨middle, passed, walked⟩ : ∃ middle,
        before.locate ⟨directory.start, front⟩ = .ok middle ∧ before.walk middle back = .ok home :=
      locate_append_ok (by simpa only [split] using found)
    cases leads.symm.trans (grows.locate passed)
    cases back with
    | nil =>
      cases walked
      exact there
    | cons name rest => exact (walk_cons_ok walked).1
  · cases there

end Files

open Files FilePath

variable {g : Generator} {options : BatchOptions} {web : Web} {files after : Files}
  {path : FilePath} {code source : String} {d : Definition} {makes : Bool}

theorem outputPath_extends (accepted : d.Accepted) (named : g.NamesFiles)
    (options : BatchOptions) : (outputPath g options d).Extends options.outputDirectory := by
  refine ⟨options.packageNames d ++ [g.fileName d], by simp, fun name member => ?_,
    outputPath_eq accepted named options⟩
  rcases List.mem_append.mp member with package | file
  · exact accepted.packageNames options name package
  · exact List.mem_singleton.mp file ▸ named d accepted

/-- An output goes to the one place that its path leads to. Directories are made on the way to
its own directory, if they are made at all. -/
abbrev GrowsFor (makes : Bool) (path : FilePath) (before after : Files) : Prop :=
  Grows (fun place => makes = true ∧ after.OnWay path.parent place)
    (fun place => after.locate path = .ok place) before after

theorem attempt_grows (files : Files) (path : FilePath) (code : String) :
    Grows (fun _ => False) (fun place => (attempt files path code).1.locate path = .ok place)
      files (attempt files path code).1 := by
  unfold attempt
  split
  · rename_i written
    exact grows_write written
  · exact .refl files

theorem writeOutput_grows (files : Files) (path : FilePath) (code : String) (makes : Bool) :
    GrowsFor makes path files (writeOutput files path code makes).1 := by
  rw [writeOutput_eq]
  split
  · exact (attempt_grows files path code).mono (fun _ => False.elim) fun _ => id
  · split
    · exact .refl files
    · rename_i makes_
      simp only [Bool.not_eq_eq_eq_not, Bool.not_true, Bool.not_eq_false] at makes_
      have paves := paves_ensureDirectories files path.parent
      split
      · rename_i middle ensured
        rw [ensured] at paves
        have writes := attempt_grows middle path code
        exact (paves.mono (fun _ passed => ⟨makes_, writes.onWay passed⟩) fun _ => False.elim).trans
          (writes.mono (fun _ => False.elim) fun _ => id)
      · rename_i ensured
        rw [ensured] at paves
        exact paves.mono (fun _ passed => ⟨makes_, passed⟩) fun _ => False.elim

namespace Batch

/-- New files and directories are below the output directory, or they are directories on the
way to it. -/
abbrev Contained (options : BatchOptions) (before after : Files) : Prop :=
  Grows
    (fun place => after.Inside options.outputDirectory place ∨
      options.makesDirectories = true ∧ after.OnWay options.outputDirectory place)
    (after.Inside options.outputDirectory) before after

theorem Contained.trans {before : Files} (first : Contained options before files)
    (second : Contained options files after) : Contained options before after := by
  refine Grows.trans (first.mono (fun place => ?_) fun _ => second.inside) second
  exact Or.imp second.inside (And.imp_right second.onWay)

theorem contained_of_growsFor (grows : GrowsFor options.makesDirectories path files after)
    (extends_ : path.Extends options.outputDirectory) : Contained options files after := by
  obtain ⟨names, more, named, rfl⟩ := extends_
  have down : ".." ∉ names := fun up => (named _ up).notAbove rfl
  have parent : FilePath.parent ⟨options.outputDirectory.start,
      options.outputDirectory.names ++ names⟩ =
        ⟨options.outputDirectory.start, options.outputDirectory.names ++ names.dropLast⟩ := by
    simp [FilePath.parent, List.dropLast_append_of_ne_nil more]
  refine grows.mono ?_ fun place leads => inside_of_down down more leads
  rintro place ⟨makes, passed⟩
  rw [parent] at passed
  exact (onWay_append (fun up => down (List.dropLast_subset _ up)) passed).imp_right (⟨makes, ·⟩)

theorem accepted_of_draft {generated : GeneratedCode}
    (drafted : (draft g web files source).result = .ok (.done d generated)) : d.Accepted := by
  simp only [draft] at drafted
  split at drafted
  · split at drafted <;> cases drafted
  · rename_i loaded
    split at drafted
    · cases drafted
    · cases drafted
    · cases drafted
      exact accepted_of_load loaded

theorem store_files (g : Generator) (options : BatchOptions) (files : Files)
    (log : List LogRecord) (source : String) (d : Definition) (generated : GeneratedCode) :
    (store g options files log source d generated).files =
      (writeOutput files (outputPath g options d) generated.code options.makesDirectories).1 := by
  simp only [store]
  split <;> simp [*]

/-- A source leaves the tree alone unless it is drafted and its module goes into the tree. -/
theorem process_files (g : Generator) (options : BatchOptions) (web : Web) (files : Files)
    (source : String) :
    (process g options web files source).files = files ∨
      ∃ d generated, (draft g web files source).result = .ok (.done d generated) ∧
        (process g options web files source).files =
          (writeOutput files (outputPath g options d) generated.code
            options.makesDirectories).1 := by
  simp only [process]
  split
  · exact .inl rfl
  · exact .inl rfl
  · exact .inl rfl
  · rename_i d generated drafted
    exact .inr ⟨d, generated, drafted, store_files g options files _ source d generated⟩

theorem process_contained (named : g.NamesFiles) (options : BatchOptions) (web : Web)
    (files : Files) (source : String) :
    Contained options files (process g options web files source).files := by
  rcases process_files g options web files source with same | ⟨d, generated, drafted, left⟩
  · rw [same]
    exact .refl files
  · rw [left]
    exact contained_of_growsFor (writeOutput_grows _ _ _ _)
      (outputPath_extends (accepted_of_draft drafted) named options)

theorem Writes.extends {output : Output} (named : g.NamesFiles)
    (here : Writes g options web files output) : output.path.Extends options.outputDirectory :=
  here.path ▸ outputPath_extends (accepted_of_draft here.drafted) named options

-- A batch may stop anywhere: what it did before is below the output directory all the same.
theorem run_contained (named : g.NamesFiles) (options : BatchOptions) (web : Web)
    (state : BatchRun) (sources : List String) :
    Contained options state.files (run g options web state sources).files ∧
      ∀ path ∈ (run g options web state sources).report.written,
        path ∈ state.report.written ∨ path.Extends options.outputDirectory := by
  induction sources generalizing state with
  | nil => exact ⟨.refl _, fun path => .inl⟩
  | cons source rest ih =>
    have here := process_contained named options web state.files source
    rcases process_cases g options web state.files source with
      ⟨output, rfl, wrote⟩ | ⟨message, failed⟩ | ⟨failure, _, escaped⟩
    · rw [run_of_writes wrote]
      obtain ⟨more, written⟩ := ih ((state.after _).withOutput output)
      refine ⟨here.trans more, fun path member => ?_⟩
      rcases written path member with earlier | below
      · rcases List.mem_append.mp earlier with earlier | now
        · exact .inl earlier
        · exact .inr (List.mem_singleton.mp now ▸ wrote.extends named)
      · exact .inr below
    · rw [run_of_fails failed]
      split
      · obtain ⟨more, written⟩ := ih ((state.after _).withError message)
        exact ⟨here.trans more, written⟩
      · exact ⟨here, fun path => .inl⟩
    · rw [run_cons, escaped]
      exact ⟨here, fun path => .inl⟩

/-- Whatever generator the batch works with, it is one for Python. -/
def MakesPython (registry : Registry) (files : Files) (options : BatchOptions)
    (generator : Option Generator) : Prop :=
  ∀ g, generatorFor registry files options generator = .ok g →
    ∃ c style, g = Python.generator c style

end Batch

theorem Batch.makesPython_standard (files : Files) (options : BatchOptions) :
    MakesPython Registry.standard files options none := by
  intro g made
  obtain ⟨name, found, configuration, held, created⟩ := Registry.createGenerator_ok made
  rw [Registry.class?_standard held] at created
  obtain ⟨style, _, rfl⟩ := map_eq_ok.mp created
  exact ⟨configuration, style, rfl⟩

/-- Modules go down from the output directory, so that a batch changes nothing but what is below
it. The one exception are directories: if they may be made, those that are missing on the way
to the output directory are made as well. -/
theorem generateBatch_contained {registry : Registry} {sources : List String}
    {generator : Option Generator} {batch : BatchRun}
    (python : Batch.MakesPython registry files options generator)
    (ends : generateBatch registry files web sources options generator = batch) :
    (∀ c style d, Definition.Accepted d →
      (outputPath (Python.generator c style) options d).Extends options.outputDirectory) ∧
    (∀ path ∈ batch.report.written, path.Extends options.outputDirectory) ∧
    (∀ place, batch.files.node? place ≠ files.node? place →
      batch.files.Inside options.outputDirectory place ∨
        options.makesDirectories = true ∧ batch.files.OnWay options.outputDirectory place ∧
          files.node? place = none ∧ batch.files.node? place = some .directory) ∧
    (files.isDirectory options.outputDirectory = true →
      ∀ place, batch.files.node? place ≠ files.node? place →
        batch.files.Inside options.outputDirectory place) := by
  refine ⟨fun c style d accepted => outputPath_extends accepted (Python.namesFiles c style) _, ?_⟩
  have contained : Batch.Contained options files batch.files ∧
      ∀ path ∈ batch.report.written, path.Extends options.outputDirectory := by
    subst ends
    cases made : Batch.generatorFor registry files options generator with
    | ok g =>
      obtain ⟨c, style, rfl⟩ := python g made
      rw [generateBatch_eq_run made]
      obtain ⟨grows, written⟩ :=
        Batch.run_contained (Python.namesFiles c style) options web { files } sources
      exact ⟨grows, fun path member => (written path member).resolve_left (by simp)⟩
    | error failure =>
      rw [generateBatch_of_error made]
      exact ⟨.refl files, by simp⟩
  obtain ⟨grows, written⟩ := contained
  refine ⟨written, fun place differs => ?_, fun there place differs => ?_⟩
  · rcases grows.changed differs with inside | ⟨inside | ⟨makes, passed⟩, free, new⟩
    · exact .inl inside
    · exact .inl inside
    · exact .inr ⟨makes, passed, free, new⟩
  · rcases grows.changed differs with inside | ⟨inside | ⟨_, passed⟩, free, _⟩
    · exact inside
    · exact inside
    · rw [passed.node? grows there] at free
      cases free

namespace Workshop

open Batch

def python : Generator := Python.generator {} {}

/-- An output directory that is there, but for the path behind one that is missing. -/
def beside : BatchOptions where
  outputDirectory := ⟨.here, ["new", "..", "out"]⟩
  makesDirectories := true

def besidePath : FilePath where
  names := ["new", "..", "out", "tool.py"]

def treeBeside (code : String) : Files :=
  (tree.put ["new"] .directory).put ["out", "tool.py"] (.file (.text code))

theorem writeOutput_beside (code : String) :
    writeOutput tree besidePath code true = (treeBeside code, none) := by
  have ensured : tree.ensureDirectories besidePath.parent = (tree.put ["new"] .directory, none) :=
    ensureDirectories_of_above rfl rfl (by decide)
      (ensureDirectories_of_above rfl rfl (by decide) (ensureDirectories_of_made rfl) rfl) rfl
  rw [writeOutput_eq, if_neg (by decide), if_neg (by decide), ensured]
  rfl

theorem outputPath_tool (options : BatchOptions) (flat : options.packageStructure = false) :
    outputPath python options tool.definition =
      ⟨options.outputDirectory.start, options.outputDirectory.names ++ ["tool.py"]⟩ := by
  have named : python.fileName tool.definition = "tool.py" := by decide +kernel
  have isName : IsName "tool.py" := ⟨by decide, by decide, by decide, by decide⟩
  simp only [outputPath, flat, Bool.false_and, Bool.false_eq_true, if_false, named, isName.join]

theorem ofText?_tool : Source.ofText? "tool.json" = some (.file ⟨.here, ["tool.json"]⟩) := rfl

theorem python_emits : ∃ code, python.emit tool.definition = .ok code := ⟨_, rfl⟩

def outputOf (source : String) (d : Definition) (code : String) (path : FilePath) : Output where
  source := source
  definition := d
  generated := ⟨formatCode code, python.warnings d, python.summary d⟩
  path := path

theorem written_of_load {options : BatchOptions} {held after : Files} {source code : String}
    {d : Definition} {path : FilePath}
    (loaded : (loadDefinition held offline source).result = .ok d)
    (emitted : python.emit d = .ok code) (leads : path = outputPath python options d)
    (stored : writeOutput held path (formatCode code) options.makesDirectories = (after, none)) :
    Writes python options offline held (outputOf source d code path) ∧
      (process python options offline held (outputOf source d code path).source).files = after := by
  have drafted : (draft python offline held (outputOf source d code path).source).result =
      .ok (.done (outputOf source d code path).definition
        (outputOf source d code path).generated) := draft_of_load loaded emitted
  exact process_of_stored drafted leads stored

theorem tool_writtenBeside {code : String} (emitted : python.emit tool.definition = .ok code) :
    Writes python beside offline tree (outputOf tool.source tool.definition code besidePath) ∧
      (process python beside offline tree tool.source).files = treeBeside (formatCode code) :=
  written_of_load tool_loaded emitted (outputPath_tool beside rfl).symm
    (writeOutput_beside (formatCode code))

theorem generatorFor_beside : generatorFor Registry.standard tree beside none = .ok python := rfl

/-- The batch that writes one module through a path of that kind. -/
theorem runs_beside : ∃ batch code, batch.files = treeBeside code ∧
    batch.report.written = [besidePath] ∧
    generateBatch Registry.standard tree offline [tool.source] beside none = batch := by
  obtain ⟨code, emitted⟩ := python_emits
  obtain ⟨wrote, left⟩ := tool_writtenBeside emitted
  have here : Writes python beside offline (BatchRun.files { files := tree })
      (outputOf tool.source tool.definition code besidePath) := wrote
  have runs := Runs.wrote here .done
  refine ⟨_, formatCode code, ?_, runs.written_eq,
    (generateBatch_eq_run generatorFor_beside).trans runs.run_eq⟩
  rw [BatchRun.files_withOutput_after]
  exact left

end Workshop

open Workshop in
theorem generateBatch_contained_beside :
    Batch.MakesPython Registry.standard tree beside none ∧
      ∃ batch, generateBatch Registry.standard tree offline [tool.source] beside none = batch ∧
        batch.report.written = [besidePath] ∧ besidePath.Extends beside.outputDirectory ∧
        ∀ place, batch.files.node? place ≠ tree.node? place →
          batch.files.Inside beside.outputDirectory place ∨
            beside.makesDirectories = true ∧ batch.files.OnWay beside.outputDirectory place ∧
              tree.node? place = none ∧ batch.files.node? place = some .directory := by
  have made := Batch.makesPython_standard tree beside
  obtain ⟨batch, _, _, written, ends⟩ := runs_beside
  obtain ⟨_, extends_, changes, _⟩ := generateBatch_contained made ends
  exact ⟨made, batch, ends, written, extends_ besidePath (by simp [written]), changes⟩

open Workshop in
/-- When directories may be made, one is made that is not below the output directory. -/
theorem generateBatch_makesBeside :
    ∃ batch, generateBatch Registry.standard tree offline [tool.source] beside none = batch ∧
      tree.node? ["new"] = none ∧ batch.files.node? ["new"] = some .directory ∧
      ¬batch.files.Inside beside.outputDirectory ["new"] := by
  obtain ⟨batch, code, left, _, ends⟩ := runs_beside
  refine ⟨batch, ends, rfl, by rw [left]; rfl, ?_⟩
  rw [left]
  rintro ⟨home, names, leads, _, split⟩
  have found : (treeBeside code).locate beside.outputDirectory = .ok ["out"] := rfl
  cases leads.symm.trans found
  simp at split

end OptionProtocol
