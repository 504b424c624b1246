import OptionProtocol.Proofs.Batch.Containment
import OptionProtocol.Proofs.Files.Tree

/-! What comes of a list of sources, apart from any files that are written on the way. A batch
comes to the same as long as its writes succeed and no source leads to what it has changed. -/

set_option autoImplicit false

namespace OptionProtocol

open Files

/-- The definitions that were generated with their code, the messages of those that failed, and
the failure that was the end of it. -/
structure Ledger where
  made : List (Definition × GeneratedCode) := []
  errors : List String := []
  failure : Option Failure := none

namespace Ledger

def withMade (ledger : Ledger) (d : Definition) (generated : GeneratedCode) : Ledger :=
  { ledger with made := (d, generated) :: ledger.made }

/-- A message, and what comes behind it if one is to keep going. -/
def ofError (keepsGoing : Bool) (message : String) (ledger : Ledger) : Ledger :=
  if keepsGoing then { ledger with errors := message :: ledger.errors } else { errors := [message] }

end Ledger

namespace Batch

/-- The ledger of sources that are all read from one tree. -/
def ledger (g : Generator) (web : Web) (files : Files) (keepsGoing : Bool) :
    List String → Ledger
  | [] => {}
  | source :: rest =>
      let more := ledger g web files keepsGoing rest
      match (draft g web files source).result with
      | .error failure => { failure := some failure }
      | .ok (.notLoaded message) => more.ofError keepsGoing (failureMessage source none message)
      | .ok (.refused message) => more.ofError keepsGoing message
      | .ok (.done d generated) => more.withMade d generated

variable {g : Generator} {options : BatchOptions} {web : Web} {files : Files}
  {failure : Failure} {keepsGoing : Bool} {state next : BatchRun} {source message : String}
  {sources rest : List String}

theorem generate_wordless {d : Definition} (failed : (g.generate d).result = .error failure) :
    failure.message? = none := by
  unfold Generator.generate at failed
  split at failed
  · cases failed
  · split at failed
    · rename_i wordless
      cases failed
      exact wordless
    · cases failed

theorem draft_wordless (failed : (draft g web files source).result = .error failure) :
    failure.message? = none := by
  simp only [draft] at failed
  split at failed
  · split at failed
    · cases failed
    · rename_i wordless
      cases failed
      exact wordless
  · split at failed
    · rename_i ungenerated
      cases failed
      exact generate_wordless ungenerated
    · cases failed
    · cases failed

theorem ledger_wordless (ended : (ledger g web files keepsGoing sources).failure = some failure) :
    failure.message? = none := by
  induction sources with
  | nil => cases ended
  | cons source rest ih =>
    simp only [ledger] at ended
    have missed {message : String}
        (ended : ((ledger g web files keepsGoing rest).ofError keepsGoing message).failure =
          some failure) : failure.message? = none := by
      unfold Ledger.ofError at ended
      split at ended
      · exact ih ended
      · cases ended
    split at ended
    · rename_i failed
      cases ended
      exact draft_wordless failed
    · exact missed ended
    · exact missed ended
    · exact ih ended

/-- The batch has not come to its end. -/
def GoesOn (options : BatchOptions) (state : BatchRun) : Prop :=
  state.failure = none ∧ (options.keepsGoing = true ∨ state.report.errors = [])

/-- Every module that the batch comes to is written. -/
def StoresAll (g : Generator) (options : BatchOptions) (web : Web) (state : BatchRun)
    (sources : List String) : Prop :=
  ∀ before source rest d generated, sources = before ++ source :: rest →
    GoesOn options (run g options web state before) →
    (draft g web (run g options web state before).files source).result =
      .ok (.done d generated) →
    (writeOutput (run g options web state before).files (outputPath g options d) generated.code
      options.makesDirectories).2 = none

/-- No write of the batch fails, and no source leads to a module that the batch wrote or may be
opened by a directory that it made. -/
structure Undisturbed (g : Generator) (options : BatchOptions) (web : Web) (files : Files)
    (state : BatchRun) (sources : List String) : Prop where
  stored : StoresAll g options web state sources
  apart : ∀ path ∈ (run g options web state sources).report.written, ∀ source ∈ sources,
    ∀ given, Source.ofText? source = some (.file given) →
      ¬(run g options web state sources).files.SamePlace path given
  straight : options.makesDirectories = true → ∀ source ∈ sources,
    ∀ given, Source.ofText? source = some (.file given) → ¬files.Detours given

/-- A batch goes from one state to another: the tree grows, and what was written stays so. -/
structure GoesTo (before after : BatchRun) : Prop where
  grows : Grows (fun _ => True) (fun _ => True) before.files after.files
  written : ∀ path ∈ before.report.written, path ∈ after.report.written

theorem GoesTo.trans {before middle after : BatchRun} (first : GoesTo before middle)
    (second : GoesTo middle after) : GoesTo before after :=
  ⟨first.grows.trans second.grows, fun path member => second.written path (first.written path member)⟩

theorem process_grows (g : Generator) (options : BatchOptions) (web : Web) (files : Files)
    (source : String) :
    Grows (fun _ => True) (fun _ => True) files (process g options web files source).files := by
  rcases process_files g options web files source with same | ⟨d, generated, _, left⟩
  · rw [same]
    exact .refl files
  · rw [left]
    exact (writeOutput_grows _ _ _ _).mono (fun _ _ => trivial) fun _ _ => trivial

theorem run_goesTo (g : Generator) (options : BatchOptions) (web : Web) (state : BatchRun)
    (sources : List String) : GoesTo state (run g options web state sources) := by
  induction sources generalizing state with
  | nil => exact ⟨.refl _, fun _ => id⟩
  | cons source rest ih =>
    have grows := process_grows g options web state.files source
    rcases process_cases g options web state.files source with
      ⟨output, rfl, wrote⟩ | ⟨message, failed⟩ | ⟨failure, _, escaped⟩
    · rw [run_of_writes wrote]
      have here : GoesTo state ((state.after (process g options web state.files
          output.source)).withOutput output) := ⟨grows, fun path => List.mem_append_left _⟩
      exact here.trans (ih _)
    · rw [run_of_fails failed]
      have here : GoesTo state ((state.after (process g options web state.files
          source)).withError message) := ⟨grows, fun path => id⟩
      split
      · exact here.trans (ih _)
      · exact ⟨grows, fun path => id⟩
    · rw [run_cons, escaped]
      exact ⟨grows, fun path => id⟩

/-- What a batch has changed since it began: files that it wrote, and directories. -/
abbrev GrownSince (options : BatchOptions) (files : Files) (state : BatchRun) : Prop :=
  Grows (fun _ => options.makesDirectories = true)
    (fun place => ∃ path ∈ state.report.written, state.files.locate path = .ok place)
    files state.files

/-- A source that leads to nothing that was changed is loaded as it was before. -/
theorem GrownSince.load (since : GrownSince options files state) (tree : files.IsTree)
    (straight : options.makesDirectories = true → ∀ given,
      Source.ofText? source = some (.file given) → ¬files.Detours given)
    (apart : ∀ path ∈ state.report.written, ∀ given,
      Source.ofText? source = some (.file given) → ¬state.files.SamePlace path given) :
    loadDefinition state.files web source = loadDefinition files web source := by
  refine loadDefinition_congr fun given found => loadFile_congr fun content =>
    since.file_iff tree (fun place makes => straight makes given found) ?_
  rintro place leads ⟨written, member, same⟩
  exact apart written member given found ⟨place, same, leads⟩

theorem draft_congr {before after : Files}
    (alike : loadDefinition after web source = loadDefinition before web source) :
    draft g web after source = draft g web before source := by
  simp only [draft, alike]

theorem GoesTo.samePlace {before after : BatchRun} (goes : GoesTo before after)
    {path other : FilePath} (same : before.files.SamePlace path other) :
    after.files.SamePlace path other := by
  obtain ⟨place, leads, alike⟩ := same
  exact ⟨place, goes.grows.locate leads, goes.grows.locate alike⟩

theorem Writes.files_eq {output : Output} (here : Writes g options web files output) :
    (process g options web files output.source).files =
      (writeOutput files output.path output.generated.code options.makesDirectories).1 := by
  simp only [process, here.drafted, store_files, here.path]

theorem writes_of_stored {d : Definition} {generated : GeneratedCode}
    (drafted : (draft g web files source).result = .ok (.done d generated))
    (stored : (writeOutput files (outputPath g options d) generated.code
      options.makesDirectories).2 = none) :
    ∃ output : Output, output.source = source ∧ output.definition = d ∧
      output.generated = generated ∧ Writes g options web files output := by
  refine ⟨⟨source, d, generated, outputPath g options d⟩, rfl, rfl, rfl, drafted, rfl, ?_⟩
  simp only [process, drafted, store]
  split
  · rfl
  · rename_i refused
    rw [refused] at stored
    cases stored

theorem GrownSince.wrote {output : Output} (since : GrownSince options files state)
    (here : Writes g options web state.files output) :
    GrownSince options files
      ((state.after (process g options web state.files output.source)).withOutput output) := by
  have grows := writeOutput_grows state.files output.path output.generated.code
    options.makesDirectories
  rw [← here.files_eq] at grows
  refine Grows.trans (since.mono (fun _ => id) ?_) (grows.mono (fun _ => And.left) ?_)
  · rintro place ⟨path, member, leads⟩
    exact ⟨path, List.mem_append_left _ member, grows.locate leads⟩
  · exact fun place leads =>
      ⟨output.path, List.mem_append_right _ (List.mem_singleton.mpr rfl), leads⟩

theorem Undisturbed.onward (calm : Undisturbed g options web files state (source :: rest))
    (moves : ∀ more, run g options web state (source :: more) = run g options web next more) :
    Undisturbed g options web files next rest where
  stored := by
    rintro before other back d generated rfl
    rw [← moves]
    exact calm.stored (source :: before) other back d generated rfl
  apart path member other listed := by
    rw [← moves] at member ⊢
    exact calm.apart path member other (List.mem_cons_of_mem _ listed)
  straight makes other listed := calm.straight makes other (List.mem_cons_of_mem _ listed)

theorem Undisturbed.draft_eq (calm : Undisturbed g options web files state (source :: rest))
    (tree : files.IsTree) (since : GrownSince options files state) :
    draft g web state.files source = draft g web files source := by
  have onward := run_goesTo g options web state (source :: rest)
  have listed : source ∈ source :: rest := List.mem_cons_self
  refine draft_congr (since.load tree (fun makes => calm.straight makes source listed) ?_)
  intro path member given found same
  exact calm.apart path (onward.written path member) source listed given found
    (onward.samePlace same)

/-- A batch comes to what the ledger says. -/
structure ComesTo (g : Generator) (options : BatchOptions) (web : Web) (state : BatchRun)
    (sources : List String) (ledger : Ledger) : Prop where
  written : (run g options web state sources).report.written =
    state.report.written ++ ledger.made.map fun entry => outputPath g options entry.1
  errors : (run g options web state sources).report.errors = state.report.errors ++ ledger.errors
  failure : (run g options web state sources).failure = ledger.failure
  outputs : ledger.failure = none → ∃ outputs,
    Runs g options web state sources outputs (run g options web state sources) ∧
      outputs.map (fun output => (output.definition, output.generated)) = ledger.made

theorem ComesTo.wrote {output : Output} {more : Ledger}
    (here : Writes g options web state.files output)
    (comes : ComesTo g options web
      ((state.after (process g options web state.files output.source)).withOutput output) rest
      more) :
    ComesTo g options web state (output.source :: rest)
      (more.withMade output.definition output.generated) := by
  have moves : run g options web state (output.source :: rest) = _ := run_of_writes here
  constructor
  · rw [moves, comes.written, Ledger.withMade, List.map_cons, ← here.path]
    exact List.append_assoc state.report.written [output.path] _
  · rw [moves, comes.errors]
    rfl
  · rw [moves, comes.failure]
    rfl
  · intro returned
    obtain ⟨outputs, runs, made⟩ := comes.outputs returned
    rw [moves]
    exact ⟨output :: outputs, .wrote here runs, by rw [List.map_cons, made]; rfl⟩

theorem ComesTo.missed {more : Ledger} (goes : GoesOn options state)
    (failed : Fails g options web state.files source message)
    (comes : options.keepsGoing = true → ComesTo g options web
      ((state.after (process g options web state.files source)).withError message) rest more) :
    ComesTo g options web state (source :: rest) (more.ofError options.keepsGoing message) := by
  have moves : run g options web state (source :: rest) = _ := run_of_fails failed
  cases going : options.keepsGoing with
  | true =>
    rw [if_pos going] at moves
    have comes := comes going
    constructor
    · rw [moves, comes.written]
      rfl
    · rw [moves, comes.errors]
      exact List.append_assoc state.report.errors [message] _
    · rw [moves, comes.failure]
      rfl
    · intro returned
      obtain ⟨outputs, runs, made⟩ := comes.outputs returned
      rw [moves]
      exact ⟨outputs, .missed failed going runs, made⟩
  | false =>
    have stops : ¬options.keepsGoing = true := by simp [going]
    rw [if_neg stops] at moves
    constructor
    · rw [moves]
      exact (List.append_nil _).symm
    · rw [moves]
      rfl
    · rw [moves]
      exact goes.1
    · intro returned
      rw [moves]
      exact ⟨[], .stopped failed going, rfl⟩

theorem GrownSince.missed (since : GrownSince options files state)
    (kept : (process g options web state.files source).files = state.files) (message : String) :
    GrownSince options files
      ((state.after (process g options web state.files source)).withError message) := by
  change Grows _ (fun place => ∃ path ∈ state.report.written,
    (process g options web state.files source).files.locate path = .ok place) files
      (process g options web state.files source).files
  rw [kept]
  exact since

theorem comesTo_of_error
    (drafted : (draft g web state.files source).result = .error failure) :
    ComesTo g options web state (source :: rest) { failure := some failure } := by
  have ended : (process g options web state.files source).result = .error failure := by
    simp only [process, drafted]
  have ends : run g options web state (source :: rest) =
      { state.after (process g options web state.files source) with failure := some failure } := by
    rw [run_cons, ended]
  constructor
  · rw [ends]
    exact (List.append_nil _).symm
  · rw [ends]
    exact (List.append_nil _).symm
  · rw [ends]
  · intro returned
    cases returned

-- The tree in which a source is read may have grown, but nothing that the source leads to has
-- changed: so the batch is drafted as if all sources were read at its beginning.
theorem run_comesTo (tree : files.IsTree) (since : GrownSince options files state)
    (goes : GoesOn options state) (calm : Undisturbed g options web files state sources) :
    ComesTo g options web state sources (ledger g web files options.keepsGoing sources) := by
  induction sources generalizing state with
  | nil =>
    exact ⟨(List.append_nil _).symm, (List.append_nil _).symm, goes.1, fun _ => ⟨[], .done, rfl⟩⟩
  | cons source rest ih =>
    have same := calm.draft_eq tree since
    have missed {message : String} (failed : Fails g options web state.files source message)
        (kept : (process g options web state.files source).files = state.files) :
        ComesTo g options web state (source :: rest)
          ((ledger g web files options.keepsGoing rest).ofError options.keepsGoing message) :=
      .missed goes failed fun going => ih (since.missed kept message) ⟨goes.1, .inl going⟩
        (calm.onward fun _ => (run_of_fails failed).trans (if_pos going))
    simp only [ledger, ← same]
    split
    · rename_i drafted
      exact comesTo_of_error drafted
    · rename_i drafted
      exact missed (by simp only [Fails, process, drafted]) (by simp only [process, drafted])
    · rename_i drafted
      exact missed (by simp only [Fails, process, drafted]) (by simp only [process, drafted])
    · rename_i d generated drafted
      have stored := calm.stored [] source rest d generated rfl goes drafted
      obtain ⟨output, rfl, rfl, rfl, here⟩ := writes_of_stored drafted stored
      exact .wrote here (ih (since.wrote here) goes (calm.onward fun _ => run_of_writes here))

end Batch

end OptionProtocol
