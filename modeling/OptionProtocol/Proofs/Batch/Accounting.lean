import OptionProtocol.Proofs.Batch.Runs

/-! What a batch reports of its sources: each of them is counted once, and a batch that stops
does what one that keeps going does with the sources up to the first that fails. -/

set_option autoImplicit false

namespace OptionProtocol

def BatchOptions.goingOn (options : BatchOptions) : BatchOptions :=
  { options with keepsGoing := true }

namespace Batch

/-- The front part ends with the first source that fails; it is all there is if none fails.
The errors are those of a batch over the given sources. -/
inductive FirstFailure (errors : List String → List String) : List String → List String → Prop where
  | absent {sources : List String} (clean : errors sources = []) : FirstFailure errors sources []
  | here {before rest : List String} {source : String} (clean : errors before = [])
      (failed : errors (before ++ [source]) ≠ []) : FirstFailure errors (before ++ [source]) rest

variable {g : Generator} {options : BatchOptions} {web : Web} {state last : BatchRun}
  {sources : List String} {outputs : List Output}

theorem Writes.goingOn {files : Files} {output : Output}
    (here : Writes g options web files output) :
    Writes g options.goingOn web files output :=
  ⟨here.drafted, here.path, here.written⟩

/-- Each source is an output, an error, or skipped. -/
theorem Runs.accounts (runs : Runs g options web state sources outputs last)
    (fresh : state.report.skipped = 0) :
    outputs.length + last.report.errors.length + last.report.skipped =
      state.report.errors.length + sources.length := by
  induction runs with
  | done => simp [fresh]
  | wrote here more ih =>
    have rest := ih fresh
    simp only [BatchRun.withOutput, BatchRun.withWritten, BatchRun.after, List.length_cons]
      at rest ⊢
    omega
  | missed here going more ih =>
    have rest := ih fresh
    simp only [BatchRun.withError, BatchRun.after, List.length_cons, List.length_append,
      List.length_nil] at rest ⊢
    omega
  | stopped =>
    simp only [BatchRun.skipping, BatchRun.withError, BatchRun.after, List.length_cons,
      List.length_append, List.length_nil]
    omega

theorem Runs.total {files : Files} (runs : Runs g options web { files } sources outputs last) :
    last.report.written.length + last.report.errors.length + last.report.skipped =
      sources.length := by
  have counts : outputs.length + last.report.errors.length + last.report.skipped =
    0 + sources.length := runs.accounts rfl
  have written : last.report.written.length = outputs.length := by simp [runs.written_eq]
  omega

theorem Runs.skipped_eq (runs : Runs g options web state sources outputs last)
    (going : options.keepsGoing = true) : last.report.skipped = state.report.skipped := by
  induction runs with
  | done => rfl
  | wrote _ _ ih => exact ih
  | missed _ _ _ ih => exact ih
  | stopped _ stops => simp [going] at stops

/-- A batch that stops, next to one that keeps going over the front part of the sources. -/
structure StopsBehind (g : Generator) (options : BatchOptions) (web : Web) (state last : BatchRun)
    (front rest : List String) (outputs : List Output) (kept : BatchRun) : Prop where
  runs : Runs g options.goingOn web state front outputs kept
  files : kept.files = last.files
  report : last.report = { kept.report with skipped := rest.length }
  -- Either nothing failed, or the last source of the front part did, and no other.
  first : rest = [] ∧ kept.report.errors = state.report.errors ∨
    ∃ before source message clean, front = before ++ [source] ∧
      Runs g options.goingOn web state before outputs clean ∧
      clean.report.errors = state.report.errors ∧
      kept.report.errors = state.report.errors ++ [message]

theorem Runs.stopsBehind (runs : Runs g options web state sources outputs last)
    (stops : options.keepsGoing = false) (fresh : state.report.skipped = 0) :
    ∃ front rest kept, sources = front ++ rest ∧
      StopsBehind g options web state last front rest outputs kept := by
  induction runs with
  | @done state =>
    exact ⟨[], [], state, rfl, .done, rfl, by simp [← fresh], .inl ⟨rfl, rfl⟩⟩
  | @wrote state last rest output outputs here more ih =>
    obtain ⟨front, rest, kept, rfl, same⟩ := ih fresh
    refine ⟨output.source :: front, rest, kept, rfl, .wrote here.goingOn same.runs, same.files,
      same.report, ?_⟩
    rcases same.first with unfailed | ⟨before, source, message, clean, rfl, first, silent, told⟩
    · exact .inl unfailed
    · exact .inr ⟨output.source :: before, source, message, clean, rfl,
        .wrote here.goingOn first, silent, told⟩
  | missed _ going => simp [stops] at going
  | @stopped state source message rest here _ =>
    exact ⟨[source], rest, _, rfl, .missed here rfl .done, rfl, rfl,
      .inr ⟨[], source, message, state, rfl, .done, rfl, rfl⟩⟩

theorem StopsBehind.firstFailure {files : Files} {front rest : List String} {kept : BatchRun}
    (same : StopsBehind g options web { files } last front rest outputs kept) :
    FirstFailure (fun sources => (run g options.goingOn web { files } sources).report.errors)
      front rest := by
  rcases same.first with
    ⟨rfl, unfailed⟩ | ⟨before, source, message, clean, rfl, first, silent, told⟩
  · exact .absent (by simp only [same.runs.run_eq, unfailed])
  · refine .here (by simp only [first.run_eq, silent]) ?_
    simp only [same.runs.run_eq, told]
    simp

end Batch

open Batch in
/-- Written, failed and skipped sources make up all sources of a batch that returns. One that
keeps going skips none. One that does not has one error at most, and its report and its tree
are those of a batch that keeps going over the sources up to the first that fails. -/
theorem generateBatch_accounts {registry : Registry} {files : Files} {web : Web}
    {sources : List String} {options : BatchOptions} {generator : Option Generator}
    {batch : BatchRun}
    (ends : generateBatch registry files web sources options generator = batch)
    (returned : batch.failure = none) :
    let goingOn := fun sources => generateBatch registry files web sources
      { options with keepsGoing := true } generator
    batch.report.written.length + batch.report.errors.length + batch.report.skipped =
        sources.length ∧
      (options.keepsGoing = true → batch.report.skipped = 0) ∧
      (options.keepsGoing = false →
        batch.report.errors.length ≤ 1 ∧
        ∃ front rest, sources = front ++ rest ∧
          FirstFailure (fun sources => (goingOn sources).report.errors) front rest ∧
          (goingOn front).failure = none ∧
          (goingOn front).files = batch.files ∧
          (goingOn front).report = { batch.report with skipped := 0 } ∧
          batch.report.skipped = rest.length) := by
  intro goingOn
  obtain ⟨g, outputs, made, runs⟩ := runs_of_generateBatch ends returned
  have goingOn_eq (sources : List String) :
      goingOn sources = run g options.goingOn web { files } sources := generateBatch_eq_run made
  refine ⟨runs.total, runs.skipped_eq, fun stops => ?_⟩
  obtain ⟨front, rest, kept, split, same⟩ := runs.stopsBehind stops rfl
  have front_eq : goingOn front = kept := (goingOn_eq front).trans same.runs.run_eq
  have fresh : kept.report.skipped = 0 := same.runs.skipped_eq rfl
  refine ⟨?_, front, rest, split, ?_, ?_, ?_, ?_, ?_⟩
  · rw [same.report]
    rcases same.first with ⟨_, unfailed⟩ | ⟨_, _, _, _, _, _, _, told⟩
    · simp [unfailed]
    · simp [told]
  · simpa only [goingOn_eq] using same.firstFailure
  · rw [front_eq, same.runs.failure_eq]
  · rw [front_eq, same.files]
  · rw [front_eq, same.report, ← fresh]
  · rw [same.report]

namespace Workshop

open Batch

theorem chair_missing :
    (loadDefinition (treeWith tool.generated.code) offline "chair.json").result =
      .error (.transfer (.fileNotFound (.ofString "chair.json"))) := by
  have path : Url.parse? "chair.json" = some {} := by decide +kernel
  have missing : (treeWith tool.generated.code).isFile (.ofString "chair.json") = false := by
    decide +kernel
  simp [loadDefinition, Source.ofText?, path, Url.isWeb, loadSource, loadFile, missing, refuse,
    Logged.andThen]

theorem chair_missed : Fails creditsGenerator options offline afterTool.files "chair.json"
    (failureMessage "chair.json" none
      (TransferFault.fileNotFound (.ofString "chair.json")).message) := by
  rw [afterTool_files]
  exact fails_of_load chair_missing rfl

theorem runs_chair : ∃ batch, batch.failure = none ∧
    Runs creditsGenerator options offline { files := tree }
      [tool.source, "chair.json", twin.source] [tool] batch :=
  ⟨_, rfl, .wrote tool_written.1 (.stopped chair_missed rfl)⟩

end Workshop

open Workshop in
/-- The second of three sources is not there. -/
theorem generateBatch_accounts_workshop :
    ∃ batch, generateBatch Registry.standard tree offline
        [tool.source, "chair.json", twin.source] options (some creditsGenerator) = batch ∧
      batch.failure = none ∧ batch.report.errors.length ≤ 1 ∧
      batch.report.written.length + batch.report.errors.length + batch.report.skipped = 3 := by
  obtain ⟨batch, returned, runs⟩ := runs_chair
  have ends := runs.generateBatch_eq Registry.standard
  have accounts := generateBatch_accounts ends returned
  exact ⟨batch, ends, returned, (accounts.2.2 rfl).1, accounts.1⟩

end OptionProtocol
