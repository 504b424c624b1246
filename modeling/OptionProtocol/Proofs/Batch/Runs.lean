import OptionProtocol.Batch
import OptionProtocol.Proofs.Except

/-! Batches that come to an end, source by source. A run of a batch is a chain of definitions
that were written and sources that failed, and records what was written for which source. -/

set_option autoImplicit false

namespace OptionProtocol

/-- What a batch wrote for a source, and where. -/
structure Output where
  source : String
  definition : Definition
  generated : GeneratedCode
  path : FilePath

namespace BatchRun

/-- The batch goes on with the tree and the records of one source. -/
def after (state : BatchRun) (one : Processed) : BatchRun :=
  { state with files := one.files, log := state.log ++ one.log }

def withWritten (state : BatchRun) (source : String) (path : FilePath) (warnings : List String) :
    BatchRun :=
  { state with report := { state.report with
      written := state.report.written ++ [path]
      warnings := state.report.warnings ++ warnings.map fun warning => source ++ ": " ++ warning } }

def withOutput (state : BatchRun) (output : Output) : BatchRun :=
  state.withWritten output.source output.path output.generated.warnings

def withError (state : BatchRun) (message : String) : BatchRun :=
  { state with report := { state.report with errors := state.report.errors ++ [message] } }

/-- The batch ends here, with that many sources left. -/
def skipping (state : BatchRun) (count : Nat) : BatchRun :=
  { state with
    log := state.log ++ if count = 0 then [] else [⟨.warning, Batch.stopMessage count⟩]
    report := { state.report with skipped := count } }

theorem files_withOutput_after (state : BatchRun) (one : Processed) (output : Output) :
    ((state.after one).withOutput output).files = one.files := rfl

end BatchRun

namespace Batch

variable {g : Generator} {options : BatchOptions} {web : Web} {files : Files}
  {state last : BatchRun} {source message : String} {rest sources : List String}
  {outputs : List Output}

/-- What a batch does with its first source. -/
theorem run_cons : run g options web state (source :: rest) =
    match (process g options web state.files source).result with
    | .error failure =>
        { state.after (process g options web state.files source) with failure := some failure }
    | .ok (.written path warnings) =>
        run g options web
          ((state.after (process g options web state.files source)).withWritten source path
            warnings)
          rest
    | .ok (.failed message) =>
        if options.keepsGoing then
          run g options web
            ((state.after (process g options web state.files source)).withError message) rest
        else ((state.after (process g options web state.files source)).withError message).skipping
          rest.length := by
  cases rest <;> rfl

/-- One source and the output for it. -/
structure Writes (g : Generator) (options : BatchOptions) (web : Web) (files : Files)
    (output : Output) : Prop where
  drafted : (draft g web files output.source).result =
    .ok (.done output.definition output.generated)
  path : output.path = outputPath g options output.definition
  written : (process g options web files output.source).result =
    .ok (.written output.path output.generated.warnings)

def Fails (g : Generator) (options : BatchOptions) (web : Web) (files : Files)
    (source message : String) : Prop :=
  (process g options web files source).result = .ok (.failed message)

/-- A batch that ends in a state after the sources, with the outputs it made on the way. -/
inductive Runs (g : Generator) (options : BatchOptions) (web : Web) :
    BatchRun → List String → List Output → BatchRun → Prop where
  | done {state : BatchRun} : Runs g options web state [] [] state
  | wrote {state last : BatchRun} {rest : List String} {output : Output} {outputs : List Output}
      (here : Writes g options web state.files output)
      (more : Runs g options web
        ((state.after (process g options web state.files output.source)).withOutput output)
        rest outputs last) :
      Runs g options web state (output.source :: rest) (output :: outputs) last
  | missed {state last : BatchRun} {source message : String} {rest : List String}
      {outputs : List Output} (here : Fails g options web state.files source message)
      (going : options.keepsGoing = true)
      (more : Runs g options web
        ((state.after (process g options web state.files source)).withError message)
        rest outputs last) :
      Runs g options web state (source :: rest) outputs last
  | stopped {state : BatchRun} {source message : String} {rest : List String}
      (here : Fails g options web state.files source message)
      (stops : options.keepsGoing = false) :
      Runs g options web state (source :: rest) []
        (((state.after (process g options web state.files source)).withError message).skipping
          rest.length)

theorem run_of_writes {output : Output} (here : Writes g options web state.files output) :
    run g options web state (output.source :: rest) =
      run g options web
        ((state.after (process g options web state.files output.source)).withOutput output)
        rest := by
  rw [run_cons, here.written]
  rfl

theorem run_of_fails (here : Fails g options web state.files source message) :
    run g options web state (source :: rest) =
      if options.keepsGoing = true then
        run g options web
          ((state.after (process g options web state.files source)).withError message) rest
      else ((state.after (process g options web state.files source)).withError message).skipping
        rest.length := by
  rw [run_cons, show (process g options web state.files source).result = _ from here]

theorem Runs.run_eq (runs : Runs g options web state sources outputs last) :
    run g options web state sources = last := by
  induction runs with
  | done => rfl
  | wrote here _ ih => rw [run_of_writes here, ih]
  | missed here going _ ih => rw [run_of_fails here, if_pos going, ih]
  | stopped here stops => rw [run_of_fails here, if_neg (by simp [stops])]

theorem Runs.written_eq (runs : Runs g options web state sources outputs last) :
    last.report.written = state.report.written ++ outputs.map Output.path := by
  induction runs with
  | done => exact (List.append_nil _).symm
  | wrote _ _ ih =>
    simp only [ih, BatchRun.withOutput, BatchRun.withWritten, BatchRun.after, List.map_cons,
      List.append_assoc, List.singleton_append]
  | missed _ _ _ ih => exact ih
  | stopped => exact (List.append_nil _).symm

theorem Runs.failure_eq (runs : Runs g options web state sources outputs last) :
    last.failure = state.failure := by
  induction runs with
  | done => rfl
  | wrote _ _ ih => exact ih
  | missed _ _ _ ih => exact ih
  | stopped => rfl

/-- Where a source ends: in an output, in a message, or in a failure that ends the batch. -/
theorem process_cases (g : Generator) (options : BatchOptions) (web : Web) (files : Files)
    (source : String) :
    (∃ output : Output, output.source = source ∧ Writes g options web files output) ∨
      (∃ message, Fails g options web files source message) ∨
      ∃ failure, (draft g web files source).result = .error failure ∧
        (process g options web files source).result = .error failure := by
  cases drafted : (draft g web files source).result with
  | error failure => exact .inr (.inr ⟨failure, rfl, by simp [process, drafted]⟩)
  | ok found =>
    cases found with
    | notLoaded message =>
      refine .inr (.inl ⟨failureMessage source none message, ?_⟩)
      simp only [Fails, process, drafted]
    | refused message =>
      refine .inr (.inl ⟨message, ?_⟩)
      simp only [Fails, process, drafted]
    | done d generated =>
      cases tried : writeOutput files (outputPath g options d) generated.code
        options.makesDirectories with
      | mk left fault =>
        cases fault with
        | none =>
          exact .inl ⟨⟨source, d, generated, outputPath g options d⟩, rfl, drafted, rfl,
            by simp only [process, drafted, store, tried]⟩
        | some fault =>
          refine .inr (.inl ⟨failureMessage source (some d.name) fault.message, ?_⟩)
          simp only [Fails, process, drafted, store, tried]

-- A failure without words ends the batch at once; all other sources extend the chain.
theorem runs_of_run (returned : (run g options web state sources).failure = none) :
    ∃ outputs, Runs g options web state sources outputs (run g options web state sources) := by
  induction sources generalizing state with
  | nil => exact ⟨[], .done⟩
  | cons source rest ih =>
    rcases process_cases g options web state.files source with
      ⟨output, rfl, here⟩ | ⟨message, here⟩ | ⟨failure, _, here⟩
    · rw [run_of_writes here] at returned ⊢
      obtain ⟨outputs, more⟩ := ih returned
      exact ⟨output :: outputs, .wrote here more⟩
    · rw [run_of_fails here] at returned ⊢
      cases going : options.keepsGoing with
      | true =>
        rw [if_pos going] at returned
        obtain ⟨outputs, more⟩ := ih returned
        exact ⟨outputs, .missed here going more⟩
      | false => exact ⟨[], .stopped here going⟩
    · rw [run_cons, here] at returned
      cases returned

theorem draft_of_load {d : Definition} {code : String}
    (loaded : (loadDefinition files web source).result = .ok d) (emitted : g.emit d = .ok code) :
    (draft g web files source).result =
      .ok (.done d ⟨formatCode code, g.warnings d, g.summary d⟩) := by
  simp only [draft, loaded, Generator.generate, emitted]

theorem process_of_stored {output : Output} {after : Files}
    (drafted : (draft g web files output.source).result =
      .ok (.done output.definition output.generated))
    (path : output.path = outputPath g options output.definition)
    (stored : writeOutput files output.path output.generated.code options.makesDirectories =
      (after, none)) :
    Writes g options web files output ∧
      (process g options web files output.source).files = after := by
  have ends : process g options web files output.source =
      ⟨.ok (.written output.path output.generated.warnings), after,
        (draft g web files output.source).log⟩ := by
    simp only [process, drafted, store, ← path, stored]
  exact ⟨⟨drafted, path, by rw [ends]⟩, by rw [ends]⟩

theorem fails_of_refused {d : Definition} {generated : GeneratedCode} {after : Files}
    {fault : TransferFault}
    (drafted : (draft g web files source).result = .ok (.done d generated))
    (refused : writeOutput files (outputPath g options d) generated.code
      options.makesDirectories = (after, some fault)) :
    Fails g options web files source (failureMessage source (some d.name) fault.message) ∧
      (process g options web files source).files = after := by
  simp only [Fails, process, drafted, store, refused, and_self]

theorem fails_of_load {failure : Failure}
    (loaded : (loadDefinition files web source).result = .error failure)
    (told : failure.message? = some message) :
    Fails g options web files source (failureMessage source none message) := by
  simp only [Fails, process, draft, loaded, told]

/-- The generator that a batch works with. -/
def generatorFor (registry : Registry) (files : Files) (options : BatchOptions)
    (generator : Option Generator) : Except Failure Generator :=
  match generator with
  | some generator => .ok generator
  | none => registry.createGenerator files options.language options.configuration

end Batch

section

variable {registry : Registry} {files : Files} {web : Web} {sources : List String}
  {options : BatchOptions} {generator : Option Generator}

theorem generateBatch_eq_run {g : Generator}
    (made : Batch.generatorFor registry files options generator = .ok g) :
    generateBatch registry files web sources options generator =
      Batch.run g options web { files } sources := by
  cases generator with
  | some given =>
    cases made
    rfl
  | none =>
    simp only [Batch.generatorFor] at made
    simp only [generateBatch, made]

theorem generateBatch_of_error {failure : Failure}
    (unmade : Batch.generatorFor registry files options generator = .error failure) :
    generateBatch registry files web sources options generator =
      { files, failure := some failure } := by
  cases generator with
  | some given => cases unmade
  | none =>
    simp only [Batch.generatorFor] at unmade
    simp only [generateBatch, unmade]

theorem Batch.Runs.generateBatch_eq {g : Generator} {outputs : List Output} {last : BatchRun}
    (runs : Runs g options web { files } sources outputs last) (registry : Registry) :
    generateBatch registry files web sources options (some g) = last :=
  (generateBatch_eq_run rfl).trans runs.run_eq

theorem exists_generator
    (returned : (generateBatch registry files web sources options generator).failure = none) :
    ∃ g, Batch.generatorFor registry files options generator = .ok g := by
  cases generator with
  | some given => exact ⟨given, rfl⟩
  | none =>
    cases made : registry.createGenerator files options.language options.configuration with
    | ok g => exact ⟨g, made⟩
    | error failure => simp [generateBatch, made] at returned

/-- A batch that returns is a run of its generator. -/
theorem runs_of_generateBatch {batch : BatchRun}
    (ends : generateBatch registry files web sources options generator = batch)
    (returned : batch.failure = none) :
    ∃ g outputs, Batch.generatorFor registry files options generator = .ok g ∧
      Batch.Runs g options web { files } sources outputs batch := by
  subst ends
  obtain ⟨g, made⟩ := exists_generator returned
  rw [generateBatch_eq_run made] at returned ⊢
  obtain ⟨outputs, runs⟩ := Batch.runs_of_run returned
  exact ⟨g, outputs, made, runs⟩

end

/-- A generator of modules that only name the class and its author. -/
def creditsGenerator : Generator where
  language := "credits"
  extension := ".txt"
  className := "CreditsGenerator"
  configuration := {}
  warnings _ := []
  emit d := .ok (d.className ++ " by " ++ d.author)
  fileName d := d.className ++ ".txt"

def offline : Web := fun _ => .timeout

namespace Workshop

open Batch

/-- Two definitions of one name, and a directory for the modules. -/
def tree : Files where
  nodes :=
    [(["tool.json"], .file (.text
        "\x7b\"name\": \"Tool\", \"author\": \"one\", \"organization\": \"lab\"\x7d")),
      (["twin.json"], .file (.text
        "\x7b\"name\": \"Tool\", \"author\": \"two\", \"organization\": \"lab\"\x7d")),
      (["out"], .directory)]

def options : BatchOptions where
  outputDirectory := .ofString "out"

def modulePath : FilePath where
  names := ["out", "Tool.txt"]

def toolBy (author source : String) : Definition where
  name := "Tool"
  author := author
  organization := "lab"
  isRoot := true
  source := some source

def outputBy (author source : String) : Output where
  source := source
  definition := toolBy author source
  generated :=
    { code := formatCode ((toolBy author source).className ++ " by " ++ author)
      warnings := []
      summary := creditsGenerator.summary (toolBy author source) }
  path := modulePath

def tool : Output := outputBy "one" "tool.json"

def twin : Output := outputBy "two" "twin.json"

def treeWith (code : String) : Files :=
  tree.put ["out", "Tool.txt"] (.file (.text code))

theorem writeOutput_tree (code : String) :
    writeOutput tree modulePath code false = (treeWith code, none) := rfl

theorem writeOutput_treeWith (first second : String) :
    writeOutput (treeWith first) modulePath second false = (treeWith second, none) := by
  have there : (treeWith first).isDirectory modulePath.parent = true := rfl
  have place : (treeWith first).locate modulePath = .ok ["out", "Tool.txt"] := rfl
  have found : (treeWith first).node? ["out", "Tool.txt"] = some (.file (.text first)) := rfl
  simp only [writeOutput, there, Files.write, place, found]
  rfl

theorem outputPath_toolBy (author source : String) :
    modulePath = outputPath creditsGenerator options (toolBy author source) := by
  have path : modulePath = outputPath creditsGenerator options (toolBy "" "") := by
    decide +kernel
  exact path

theorem drafted_of_load {held : Files} {author source : String}
    (loaded : (loadDefinition held offline source).result = .ok (toolBy author source)) :
    (draft creditsGenerator offline held source).result =
      .ok (.done (outputBy author source).definition (outputBy author source).generated) :=
  draft_of_load loaded rfl

theorem tool_loaded : (loadDefinition tree offline tool.source).result = .ok tool.definition := by
  rw [← toOption_eq_some]
  decide +kernel

theorem tool_written : Writes creditsGenerator options offline tree tool ∧
    (process creditsGenerator options offline tree tool.source).files =
      treeWith tool.generated.code :=
  process_of_stored (drafted_of_load tool_loaded) (outputPath_toolBy _ _)
    (writeOutput_tree tool.generated.code)

theorem twin_written :
    Writes creditsGenerator options offline (treeWith tool.generated.code) twin ∧
      (process creditsGenerator options offline (treeWith tool.generated.code)
        twin.source).files = treeWith twin.generated.code := by
  have loaded : (loadDefinition (treeWith tool.generated.code) offline twin.source).result =
      .ok twin.definition := by
    rw [← toOption_eq_some]
    decide +kernel
  exact process_of_stored (drafted_of_load loaded) (outputPath_toolBy _ _)
    (writeOutput_treeWith tool.generated.code twin.generated.code)

/-- The batch when it has written the first module. -/
def afterTool : BatchRun :=
  (BatchRun.after { files := tree }
    (process creditsGenerator options offline tree tool.source)).withOutput tool

theorem afterTool_files : afterTool.files = treeWith tool.generated.code := by
  rw [afterTool, BatchRun.files_withOutput_after, tool_written.2]

end Workshop

end OptionProtocol
