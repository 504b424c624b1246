import OptionProtocol.Loading
import OptionProtocol.Registry

/-! Batches: every definition is loaded, generated and written on its own. A batch stops at
the first failure unless it is to keep going. -/

set_option autoImplicit false

namespace OptionProtocol

structure BatchOptions where
  outputDirectory : FilePath
  packageStructure : Bool := false
  makesDirectories : Bool := false
  keepsGoing : Bool := false
  language : String := "python"
  configuration : ConfigurationSource := .default

structure BatchReport where
  written : List FilePath := []
  errors : List String := []
  warnings : List String := []
  skipped : Nat := 0
  deriving DecidableEq, Repr

namespace BatchReport

def succeeded (report : BatchReport) : Bool := report.errors.isEmpty

def errorMessage? (report : BatchReport) : Option String :=
  if report.errors.isEmpty then none else some ("\n".intercalate report.errors)

end BatchReport

inductive Draft where
  | notLoaded (message : String)
  | refused (message : String)
  | done (definition : Definition) (generated : GeneratedCode)
  deriving DecidableEq, Repr

inductive Outcome where
  | written (path : FilePath) (warnings : List String)
  | failed (message : String)
  deriving DecidableEq, Repr

/-- The outcome for one definition, or a failure that no batch survives. -/
structure Processed where
  result : Except Failure Outcome
  files : Files
  log : List LogRecord

structure BatchRun where
  files : Files
  report : BatchReport := {}
  log : List LogRecord := []
  failure : Option Failure := none

/-- The path of the module for a definition: in the output directory, below the directories
of its package if those are asked for. -/
def outputPath (g : Generator) (options : BatchOptions) (d : Definition) : FilePath :=
  let directory :=
    if options.packageStructure && d.package != "" then
      (Name.parts d.package).foldl FilePath.join options.outputDirectory
    else options.outputDirectory
  directory.join (g.fileName d)

def writeOutput (files : Files) (path : FilePath) (code : String) (makesDirectories : Bool) :
    Files × Option TransferFault :=
  let write (files : Files) : Files × Option TransferFault :=
    match files.write path code with
    | .ok files => (files, none)
    | .error fault => (files, some (.unwritten path fault))
  if files.isDirectory path.parent then write files
  else if !makesDirectories then (files, some (.noDirectory path.parent))
  else
    match files.ensureDirectories path.parent with
    | (files, none) => write files
    | (files, some fault) => (files, some (.noNewDirectory path.parent fault))

namespace Batch

/-- How a failure is told: by the source, by the name of the definition once it is known, and
by what went wrong. -/
def failureMessage (source : String) (name : Option String) (message : String) : String :=
  match name with
  | some name => "Failed to process " ++ source ++ " (" ++ name ++ "): " ++ message
  | none => "Failed to process " ++ source ++ ": " ++ message

/-- Load and generate one definition. Only failures that have words make a draft. -/
def draft (g : Generator) (web : Web) (files : Files) (source : String) : Logged Failure Draft :=
  let loaded := loadDefinition files web source
  match loaded.result with
  | .error failure =>
      match failure.message? with
      | some message => ⟨.ok (.notLoaded message), loaded.log⟩
      | none => ⟨.error failure, loaded.log⟩
  | .ok d =>
      let generation := g.generate d
      let log := loaded.log ++ generation.log
      match generation.result with
      | .error failure => ⟨.error failure, log⟩
      | .ok (.refused message _) => ⟨.ok (.refused message), log⟩
      | .ok (.done generated) => ⟨.ok (.done d generated), log⟩

def failureRecord (source message : String) : LogRecord :=
  ⟨.error, failureMessage source none message⟩

def store (g : Generator) (options : BatchOptions) (files : Files) (log : List LogRecord)
    (source : String) (d : Definition) (generated : GeneratedCode) : Processed :=
  let path := outputPath g options d
  match writeOutput files path generated.code options.makesDirectories with
  | (files, none) => ⟨.ok (.written path generated.warnings), files, log⟩
  | (files, some fault) =>
      { result := .ok (.failed (failureMessage source (some d.name) fault.message))
        files
        log := log ++ [failureRecord source fault.message] }

def process (g : Generator) (options : BatchOptions) (web : Web) (files : Files)
    (source : String) : Processed :=
  let drafted := draft g web files source
  match drafted.result with
  | .error failure => ⟨.error failure, files, drafted.log⟩
  | .ok (.notLoaded message) =>
      { result := .ok (.failed (failureMessage source none message))
        files
        log := drafted.log ++ [failureRecord source message] }
  | .ok (.refused message) => ⟨.ok (.failed message), files, drafted.log⟩
  | .ok (.done d generated) => store g options files drafted.log source d generated

def stopMessage (count : Nat) : String :=
  "Stopping after failure, " ++ Number.intText count ++ " definition(s) skipped"

def run (g : Generator) (options : BatchOptions) (web : Web) (state : BatchRun) :
    List String → BatchRun
  | [] => state
  | source :: rest =>
      let one := process g options web state.files source
      let log := state.log ++ one.log
      match one.result with
      | .error failure => { state with files := one.files, log, failure := some failure }
      | .ok (.written path warnings) =>
          run g options web
            { state with
              files := one.files
              log
              report := { state.report with
                written := state.report.written ++ [path]
                warnings := state.report.warnings ++
                  warnings.map fun warning => source ++ ": " ++ warning } }
            rest
      | .ok (.failed message) =>
          let report := { state.report with errors := state.report.errors ++ [message] }
          if options.keepsGoing then
            run g options web { state with files := one.files, log, report } rest
          else
            { state with
              files := one.files
              log := log ++
                if rest.isEmpty then [] else [⟨.warning, stopMessage rest.length⟩]
              report := { report with skipped := rest.length } }

end Batch

/-- Generate modules for all sources with the given generator, or else with one that the
registry makes from the options. -/
def generateBatch (registry : Registry) (files : Files) (web : Web) (sources : List String)
    (options : BatchOptions) (generator : Option Generator) : BatchRun :=
  let created : Except Failure Generator := match generator with
    | some generator => .ok generator
    | none => registry.createGenerator files options.language options.configuration
  match created with
  | .error failure => { files, failure := some failure }
  | .ok generator => Batch.run generator options web { files } sources

end OptionProtocol
