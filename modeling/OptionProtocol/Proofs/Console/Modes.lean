import OptionProtocol.Proofs.Batch.Ledger
import OptionProtocol.Proofs.Console.Preview

/-! The command prints modules or writes them. Both ways go through the sources on their own, and
both come to the same ledger: the same definitions, the same messages, the same end. -/

set_option autoImplicit false

namespace OptionProtocol

namespace Session

open Batch

variable {g : Generator} {web : Web} {files : Files} {registry : Registry} {a : Arguments}
  {failure : Failure}

theorem stop_of_wordless (wordless : failure.message? = none) (session : Session) :
    session.stop failure = { session with exit := .error failure } := by
  have untold : usageMessage? failure = none := by
    cases failure <;> first | rfl | cases wordless
  simp only [stop, untold]

/-- Two runs of the command end alike: with one exit code and the same errors on the console. -/
def EndsLike (first second : Session) : Prop :=
  first.exit = second.exit ∧ first.errors = second.errors

theorem stop_endsLike {first second : Session} (errors : first.errors = second.errors)
    (failure : Failure) : EndsLike (first.stop failure) (second.stop failure) := by
  unfold stop
  split
  · unfold refuse
    split
    · exact ⟨rfl, by rw [errors]⟩
    · exact ⟨rfl, errors⟩
  · exact ⟨rfl, errors⟩

theorem finish_endsLike {first second : Session} (errors : first.errors = second.errors)
    (messages : List String) : EndsLike (first.finish messages) (second.finish messages) := by
  unfold finish
  split
  · exact ⟨rfl, errors⟩
  · exact ⟨rfl, by rw [errors]⟩

theorem argumentFault?_toStdout
    (accepted : argumentFault? registry files { a with toStdout := false } = none) :
    argumentFault? registry files { a with toStdout := true } = none := by
  unfold argumentFault? at accepted ⊢
  split at accepted
  · cases accepted
  · split at accepted
    · cases accepted
    · simp_all

theorem runArguments_of_accepted (lists : a.listsLanguages = false)
    (accepted : argumentFault? registry files a = none) :
    runArguments registry files web a =
      match configure registry files a with
      | .error failure =>
          Session.stop { exit := .ok .ok, files, verbose := some a.verbose } failure
      | .ok (configuration, log) =>
          let session : Session := { exit := .ok .ok, files, log, verbose := some a.verbose }
          if a.toStdout then toStdout registry web a configuration session
          else toFiles registry web a configuration session := by
  rw [runArguments, lists, accepted]
  rfl

/-- The session ends with what the ledger says. -/
def close (session : Session) (ledger : Ledger) : Session :=
  match ledger.failure with
  | some failure => { session with exit := .error failure }
  | none => session.finish ledger.errors

variable {configuration : Configuration} {session : Session}

theorem toStdout_shows
    (made : registry.createGenerator session.files a.language (.ready configuration) = .ok g)
    (plain : (toStdout registry web a configuration session).exit ≠ .error .markup) :
    Shows g {} (preview g web session.files a.keepsGoing {} a.sources)
      (ledger g web session.files a.keepsGoing a.sources) := by
  refine preview_shows rfl fun broken => ?_
  simp [toStdout, made, broken] at plain

theorem toStdout_endsLike
    (made : registry.createGenerator session.files a.language (.ready configuration) = .ok g)
    (plain : (toStdout registry web a configuration session).exit ≠ .error .markup) :
    EndsLike (toStdout registry web a configuration session)
      (session.close (ledger g web session.files a.keepsGoing a.sources)) := by
  have shows_ := toStdout_shows made plain
  simp only [toStdout, made]
  have errors : (preview g web session.files a.keepsGoing {} a.sources).errors = _ := shows_.errors
  rw [List.nil_append] at errors
  rw [shows_.failure, errors, close]
  cases (ledger g web session.files a.keepsGoing a.sources).failure with
  | some failure => exact ⟨rfl, rfl⟩
  | none => exact finish_endsLike (by rfl) _

theorem generateBatch_comesTo
    (made : registry.createGenerator files a.language (.ready configuration) = .ok g)
    (tree : files.IsTree)
    (calm : Undisturbed g (batchOptions a configuration) web files { files } a.sources) :
    generateBatch registry files web a.sources (batchOptions a configuration) none =
        Batch.run g (batchOptions a configuration) web { files } a.sources ∧
      ComesTo g (batchOptions a configuration) web { files } a.sources
        (ledger g web files a.keepsGoing a.sources) :=
  ⟨generateBatch_eq_run made, run_comesTo tree (.refl files) ⟨rfl, .inr rfl⟩ calm⟩

theorem toFiles_endsLike
    (made : registry.createGenerator session.files a.language (.ready configuration) = .ok g)
    (tree : session.files.IsTree)
    (calm : Undisturbed g (batchOptions a configuration) web session.files
      { files := session.files } a.sources)
    (plain : (toFiles registry web a configuration session).exit ≠ .error .markup) :
    EndsLike (toFiles registry web a configuration session)
      (session.close (ledger g web session.files a.keepsGoing a.sources)) := by
  obtain ⟨runs, comes⟩ := generateBatch_comesTo made tree calm
  have errors : (Batch.run g (batchOptions a configuration) web { files := session.files }
      a.sources).report.errors = _ := comes.errors
  rw [List.nil_append] at errors
  simp only [toFiles, runs] at plain ⊢
  rw [comes.failure] at plain ⊢
  rw [close]
  cases ended : (ledger g web session.files a.keepsGoing a.sources).failure with
  | some failure =>
    simp only [stop_of_wordless (ledger_wordless ended)]
    exact ⟨rfl, rfl⟩
  | none =>
    simp only [ended] at plain ⊢
    rcases reportLines_failure (Batch.run g (batchOptions a configuration) web
      { files := session.files } a.sources).report a.verbose with printed | broken
    · rw [printed, errors]
      exact finish_endsLike (by rfl) _
    · simp [broken] at plain

theorem endsLike_of_unmade
    (unmade : registry.createGenerator session.files a.language (.ready configuration) =
      .error failure) :
    EndsLike (toStdout registry web a configuration session)
      (toFiles registry web a configuration session) := by
  have batch : generateBatch registry session.files web a.sources (batchOptions a configuration)
      none = { files := session.files, failure := some failure } := generateBatch_of_error unmade
  simp only [toStdout, unmade, toFiles, batch]
  exact stop_endsLike (by rfl) failure

theorem toStdout_toFiles_endsLike (tree : session.files.IsTree)
    (calm : ∀ g, registry.createGenerator session.files a.language (.ready configuration) = .ok g →
      Undisturbed g (batchOptions a configuration) web session.files
        { files := session.files } a.sources)
    (printed : (toStdout registry web a configuration session).exit ≠ .error .markup)
    (written : (toFiles registry web a configuration session).exit ≠ .error .markup) :
    EndsLike (toStdout registry web a configuration session)
      (toFiles registry web a configuration session) := by
  cases made : registry.createGenerator session.files a.language (.ready configuration) with
  | error failure => exact endsLike_of_unmade made
  | ok g =>
    have shown := toStdout_endsLike made printed
    have wrote := toFiles_endsLike made tree (calm g made) written
    exact ⟨shown.1.trans wrote.1.symm, shown.2.trans wrote.2.symm⟩

theorem exit_finish (session : Session) (messages : List String) :
    (session.finish messages).exit = .ok (if messages.isEmpty then .ok else .failure) := by
  unfold finish
  split <;> rfl

theorem exit_toStdout
    (made : registry.createGenerator session.files a.language (.ready configuration) = .ok g)
    (printed : (preview g web session.files a.keepsGoing {} a.sources).failure = none) :
    (toStdout registry web a configuration session).exit =
      .ok (if (preview g web session.files a.keepsGoing {} a.sources).errors.isEmpty then .ok
        else .failure) := by
  simp only [toStdout, made, printed, exit_finish]

theorem exit_toFiles {batch : BatchRun}
    (ends : generateBatch registry session.files web a.sources (batchOptions a configuration) none =
      batch)
    (returned : batch.failure = none) (printed : (reportLines batch.report a.verbose).2 = none) :
    (toFiles registry web a configuration session).exit =
      .ok (if batch.report.errors.isEmpty then .ok else .failure) := by
  simp only [toFiles, ends, returned, printed, exit_finish]

end Session

namespace Workshop

open Batch Files Session

/-- One definition with a package, and a directory for the modules. -/
def packaged : Files where
  nodes :=
    [(["tool.json"], .file (.text ("\x7b\"name\": \"Tool\", \"author\": \"one\", " ++
        "\"organization\": \"lab\", \"package\": \"lib\"\x7d"))),
      (["out"], .directory)]

def toolIn (source : String) : Definition :=
  { toolBy "one" source with package := "lib" }

def intoPackages (sources : List String) : Arguments where
  sources := sources
  outputDirectory := some "out"
  packageStructure := true
  makesDirectories := true

def inPackage : FilePath where
  names := ["out", "lib", "tool.py"]

def packagedWith (code : String) : Files :=
  (packaged.put ["out", "lib"] .directory).put ["out", "lib", "tool.py"] (.file (.text code))

theorem configure_packaged (sources : List String) :
    Session.configure Registry.standard packaged (intoPackages sources) = .ok ({}, []) := by
  have closed : Session.configure Registry.standard packaged (intoPackages []) = .ok ({}, []) := rfl
  exact closed

theorem createGenerator_packaged :
    Registry.standard.createGenerator packaged "python" (.ready {}) = .ok python := rfl

def packageOptions : BatchOptions := batchOptions (intoPackages []) {}

theorem outputPath_toolIn (source : String) :
    inPackage = outputPath python packageOptions (toolIn source) := by
  have closed : inPackage = outputPath python packageOptions (toolIn "") := rfl
  exact closed

theorem toolIn_emits (source : String) : ∃ code, python.emit (toolIn source) = .ok code := ⟨_, rfl⟩

theorem writeOutput_packaged (code : String) :
    writeOutput packaged inPackage code true = (packagedWith code, none) := by
  have ensured : packaged.ensureDirectories inPackage.parent =
      (packaged.put ["out", "lib"] .directory, none) := ensureDirectories_of_made rfl
  rw [writeOutput_eq, if_neg (by decide), if_neg (by decide), ensured]
  rfl

theorem writeOutput_packagedWith (first second : String) :
    writeOutput (packagedWith first) inPackage second true = (packagedWith second, none) := by
  have there : (packagedWith first).isDirectory inPackage.parent = true := rfl
  have place : (packagedWith first).locate inPackage = .ok ["out", "lib", "tool.py"] := rfl
  have found : (packagedWith first).node? ["out", "lib", "tool.py"] = some (.file (.text first)) :=
    rfl
  simp only [writeOutput, there, Files.write, place, found]
  rfl

/-- A path to the definition through the directory that is made for its module. -/
def roundabout : String := "out/lib/../../tool.json"

theorem ofString_roundabout :
    FilePath.ofString roundabout = ⟨.here, ["out", "lib", "..", "..", "tool.json"]⟩ := rfl

theorem ofText?_roundabout :
    Source.ofText? roundabout = some (.file (.ofString roundabout)) := rfl

theorem packaged_loaded :
    (loadDefinition packaged offline "tool.json").result = .ok (toolIn "tool.json") := by
  rw [← toOption_eq_some]
  decide +kernel

theorem roundabout_loaded (code : String) :
    (loadDefinition (packagedWith code) offline roundabout).result = .ok (toolIn roundabout) := by
  have opened : (loadDefinition (packaged.put ["out", "lib"] .directory) offline
      roundabout).result = .ok (toolIn roundabout) := by
    rw [← toOption_eq_some]
    decide +kernel
  rw [← opened]
  refine congrArg Logged.result (loadDefinition_congr fun other found => loadFile_congr ?_)
  cases ofText?_roundabout.symm.trans found
  rw [ofString_roundabout]
  exact fun content => Iff.rfl

theorem roundabout_missing : (loadDefinition packaged offline roundabout).result =
    .error (.transfer (.fileNotFound (.ofString roundabout))) := by
  have missing : packaged.isFile (.ofString roundabout) = false := rfl
  simp [loadDefinition, ofText?_roundabout, loadSource, loadFile, missing,
    OptionProtocol.refuse, Logged.andThen]

theorem tool_inPackage {code : String} (emitted : python.emit (toolIn "tool.json") = .ok code) :
    Writes python packageOptions offline packaged
        (outputOf "tool.json" (toolIn "tool.json") code inPackage) ∧
      (process python packageOptions offline packaged "tool.json").files =
        packagedWith (formatCode code) :=
  written_of_load packaged_loaded emitted (outputPath_toolIn _) (writeOutput_packaged _)

theorem roundabout_inPackage {first code : String}
    (emitted : python.emit (toolIn roundabout) = .ok code) :
    Writes python packageOptions offline (packagedWith first)
        (outputOf roundabout (toolIn roundabout) code inPackage) ∧
      (process python packageOptions offline (packagedWith first) roundabout).files =
        packagedWith (formatCode code) :=
  written_of_load (roundabout_loaded first) emitted (outputPath_toolIn _)
    (writeOutput_packagedWith _ _)

theorem exit_printing {sources : List String}
    (accepted : argumentFault? Registry.standard packaged (intoPackages sources) = none)
    (printed : (preview python offline packaged false {} sources).failure = none) :
    (runArguments Registry.standard packaged offline
        { intoPackages sources with toStdout := true }).exit =
      .ok (if (preview python offline packaged false {} sources).errors.isEmpty then .ok
        else .failure) := by
  have ends : runArguments Registry.standard packaged offline
      { intoPackages sources with toStdout := true } = _ :=
    runArguments_of_accepted rfl (argumentFault?_toStdout accepted)
  rw [ends, show Session.configure _ _ { intoPackages sources with toStdout := true } = _ from
    configure_packaged sources]
  exact exit_toStdout createGenerator_packaged printed

theorem exit_writing {sources : List String} {outputs : List Output} {batch : BatchRun}
    (accepted : argumentFault? Registry.standard packaged (intoPackages sources) = none)
    (runs : Runs python packageOptions offline { files := packaged } sources outputs batch)
    (paths : ∀ output ∈ outputs, output.path = inPackage) :
    (runArguments Registry.standard packaged offline (intoPackages sources)).exit =
      .ok (if batch.report.errors.isEmpty then .ok else .failure) := by
  have made : generatorFor Registry.standard packaged packageOptions none = .ok python :=
    createGenerator_packaged
  have ends : generateBatch Registry.standard packaged offline sources packageOptions none =
      batch := (generateBatch_eq_run made).trans runs.run_eq
  have printed : (reportLines batch.report false).2 = none := by
    refine reportLines_printed (fun path member => ?_) nofun
    rw [runs.written_eq, List.nil_append] at member
    obtain ⟨output, listed, rfl⟩ := List.mem_map.mp member
    rw [paths output listed]
    decide
  rw [runArguments_of_accepted rfl accepted, configure_packaged]
  exact exit_toFiles ends runs.failure_eq printed

theorem preview_tool {code : String} (emitted : python.emit (toolIn "tool.json") = .ok code)
    (rest : List String) : ∃ next : Preview, next.failure = none ∧ next.errors = [] ∧
      preview python offline packaged false {} ("tool.json" :: rest) =
        preview python offline packaged false next rest := by
  have printed : (warningLines (python.warnings (toolIn "tool.json"))).2 = none :=
    warningLines_printed (by decide)
  exact ⟨_, rfl, rfl, preview_of_done (draft_of_load packaged_loaded emitted) printed⟩

theorem accepted_packaged : argumentFault? Registry.standard packaged
    (intoPackages ["tool.json"]) = none := rfl

theorem isTree_packaged : packaged.IsTree := isTree_of_nodes rfl (by decide)

theorem runs_packaged {code : String} (emitted : python.emit (toolIn "tool.json") = .ok code) :
    ∃ batch, batch.files = packagedWith (formatCode code) ∧ batch.report.errors = [] ∧
      Runs python packageOptions offline { files := packaged } ["tool.json"]
        [outputOf "tool.json" (toolIn "tool.json") code inPackage] batch := by
  obtain ⟨wrote, left⟩ := tool_inPackage emitted
  have here : Writes python packageOptions offline (BatchRun.files { files := packaged })
      (outputOf "tool.json" (toolIn "tool.json") code inPackage) := wrote
  refine ⟨_, ?_, ?_, .wrote here .done⟩
  · rw [BatchRun.files_withOutput_after]
    exact left
  · rfl

theorem ofString_tool : FilePath.ofString "tool.json" = ⟨.here, ["tool.json"]⟩ := rfl

theorem not_samePlace_inPackage {code : String} {path : FilePath}
    (leads : (packagedWith code).locate path = .ok ["tool.json"]) :
    ¬(packagedWith code).SamePlace inPackage path := by
  rintro ⟨place, passed, same⟩
  have written : (packagedWith code).locate inPackage = .ok ["out", "lib", "tool.py"] := rfl
  have met := (written.symm.trans passed).trans (same.symm.trans leads)
  simp at met

theorem undisturbed_packaged :
    Undisturbed python packageOptions offline packaged { files := packaged } ["tool.json"] := by
  obtain ⟨code, emitted⟩ := toolIn_emits "tool.json"
  obtain ⟨batch, left, _, runs⟩ := runs_packaged emitted
  constructor
  · rintro (_ | ⟨first, before⟩) source rest d generated split _ drafted
    · obtain ⟨rfl, rfl⟩ := List.cons.inj split
      have known := draft_of_load packaged_loaded emitted
      cases drafted.symm.trans known
      rw [← outputPath_toolIn]
      exact congrArg Prod.snd (writeOutput_packaged (formatCode code))
    · simp at split
  · rw [runs.run_eq, runs.written_eq, left]
    intro path member source listed given found
    obtain rfl := List.mem_singleton.mp listed
    cases ofText?_tool.symm.trans found
    obtain rfl : path = inPackage := by simpa [outputOf] using member
    exact not_samePlace_inPackage rfl
  · rintro _ source listed given found ⟨front, back, place, split, up, _⟩
    obtain rfl := List.mem_singleton.mp listed
    cases ofText?_tool.symm.trans found
    have split : ["tool.json"] = front ++ back := split
    have down : ".." ∉ ["tool.json"] := by decide
    exact down (split ▸ List.mem_append_right _ up)

theorem printed_packaged :
    (runArguments Registry.standard packaged offline
      { intoPackages ["tool.json"] with toStdout := true }).exit = .ok .ok := by
  obtain ⟨code, emitted⟩ := toolIn_emits "tool.json"
  obtain ⟨next, fresh, clean, shown⟩ := preview_tool emitted []
  have ended : preview python offline packaged false {} ["tool.json"] = next := shown
  have printing := exit_printing accepted_packaged (ended ▸ fresh)
  rw [ended, clean] at printing
  exact printing

theorem written_packaged :
    (runArguments Registry.standard packaged offline (intoPackages ["tool.json"])).exit =
      .ok .ok := by
  obtain ⟨code, emitted⟩ := toolIn_emits "tool.json"
  obtain ⟨batch, _, clean, runs⟩ := runs_packaged emitted
  have writing := exit_writing accepted_packaged runs (by simp [outputOf])
  rw [clean] at writing
  exact writing

end Workshop

namespace Workshop

open Batch Session

theorem accepted_roundabout : argumentFault? Registry.standard packaged
    (intoPackages ["tool.json", roundabout]) = none := rfl

theorem runs_roundabout {code next : String} (emitted : python.emit (toolIn "tool.json") = .ok code)
    (again : python.emit (toolIn roundabout) = .ok next) :
    ∃ batch, batch.files = packagedWith (formatCode next) ∧ batch.report.errors = [] ∧
      Runs python packageOptions offline { files := packaged } ["tool.json", roundabout]
        [outputOf "tool.json" (toolIn "tool.json") code inPackage,
          outputOf roundabout (toolIn roundabout) next inPackage] batch := by
  obtain ⟨wrote, left⟩ := tool_inPackage emitted
  have here : Writes python packageOptions offline (BatchRun.files { files := packaged })
      (outputOf "tool.json" (toolIn "tool.json") code inPackage) := wrote
  have more : Writes python packageOptions offline
        ((BatchRun.after { files := packaged }
          (process python packageOptions offline packaged "tool.json")).withOutput
            (outputOf "tool.json" (toolIn "tool.json") code inPackage)).files
        (outputOf roundabout (toolIn roundabout) next inPackage) ∧
      (process python packageOptions offline
        ((BatchRun.after { files := packaged }
          (process python packageOptions offline packaged "tool.json")).withOutput
            (outputOf "tool.json" (toolIn "tool.json") code inPackage)).files roundabout).files =
        packagedWith (formatCode next) := by
    rw [BatchRun.files_withOutput_after, left]
    exact roundabout_inPackage again
  refine ⟨_, ?_, ?_, .wrote here (.wrote more.1 .done)⟩
  · rw [BatchRun.files_withOutput_after]
    exact more.2
  · rfl

theorem written_roundabout :
    (runArguments Registry.standard packaged offline
      (intoPackages ["tool.json", roundabout])).exit = .ok .ok := by
  obtain ⟨code, emitted⟩ := toolIn_emits "tool.json"
  obtain ⟨next, again⟩ := toolIn_emits roundabout
  obtain ⟨batch, _, clean, runs⟩ := runs_roundabout emitted again
  have writing := exit_writing accepted_roundabout runs (by simp [outputOf])
  rw [clean] at writing
  exact writing

theorem printed_roundabout :
    (runArguments Registry.standard packaged offline
      { intoPackages ["tool.json", roundabout] with toStdout := true }).exit = .ok .failure := by
  obtain ⟨code, emitted⟩ := toolIn_emits "tool.json"
  obtain ⟨next, fresh, clean, shown⟩ := preview_tool emitted [roundabout]
  have drafted : ∃ message, (draft python offline packaged roundabout).result =
      .ok (.notLoaded message) := by
    simp only [draft, roundabout_missing]
    exact ⟨_, rfl⟩
  obtain ⟨message, drafted⟩ := drafted
  rw [preview_of_notLoaded drafted, if_neg (by decide)] at shown
  have printing := exit_printing accepted_roundabout (by rw [shown]; exact fresh)
  rw [shown] at printing
  simpa [withMessage] using printing

end Workshop

end OptionProtocol
