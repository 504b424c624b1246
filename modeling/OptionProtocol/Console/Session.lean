import OptionProtocol.Batch
import OptionProtocol.Console.Arguments
import OptionProtocol.Console.Help
import OptionProtocol.Console.Markup

/-! One run of the command: what it prints, what it writes, and how it ends. -/

set_option autoImplicit false

namespace OptionProtocol

/-- How a run ends that is not stopped by a failure. -/
inductive ExitCode where
  | ok
  | usage
  | failure
  deriving DecidableEq, Repr

def ExitCode.toNat : ExitCode → Nat
  | .ok => 0
  | .usage => 1
  | .failure => 2

/-- A run of the command. Output and errors are lines; a line may bring line ends of its own.
`verbose` is whether all details are logged, once that is known. -/
structure Session where
  exit : Except Failure ExitCode
  output : List String := []
  errors : List String := []
  files : Files
  log : List LogRecord := []
  verbose : Option Bool := none

structure Exhibit where
  fileName : String
  generated : GeneratedCode
  deriving DecidableEq, Repr

structure Preview where
  exhibits : List Exhibit := []
  errors : List String := []
  output : List String := []
  log : List LogRecord := []
  failure : Option Failure := none

namespace Session

/-- Warnings as they are printed, up to the first whose markup is broken. -/
def warningItems : List String → List String × Option Failure
  | [] => ([""], none)
  | warning :: rest =>
      match Markup.render warning with
      | none => ([], some .markup)
      | some shown =>
          let (lines, failure) := warningItems rest
          (("  • " ++ shown) :: lines, failure)

def warningLines (warnings : List String) : List String × Option Failure :=
  if warnings.isEmpty then ([], none)
  else
    let (lines, failure) := warningItems warnings
    ("" :: "⚠️  Warnings:" :: lines, failure)

def errorLines (errors : List String) : List String :=
  "✗ Generation failed:" :: errors.map fun error => "  " ++ Markup.plain error

/-- Code as it is printed: below the name of its file, with line ends of one kind. -/
def exhibitLines (exhibit : Exhibit) : List String := [
  "📄 " ++ exhibit.fileName,
  Text.over (fun code => Markup.withoutControls (Text.normalizeLineEnds code))
    exhibit.generated.code]

def preview (g : Generator) (web : Web) (files : Files) (keepsGoing : Bool) (state : Preview) :
    List String → Preview
  | [] => state
  | source :: rest =>
      let drafted := Batch.draft g web files source
      let log := state.log ++ drafted.log
      let refused (message : String) : Preview :=
        { state with log, errors := state.errors ++ [message] }
      match drafted.result with
      | .error failure => { state with log, failure := some failure }
      | .ok (.notLoaded message) =>
          let next := refused (Batch.failureMessage source none message)
          if keepsGoing then preview g web files keepsGoing next rest else next
      | .ok (.refused message) =>
          let next := refused message
          if keepsGoing then preview g web files keepsGoing next rest else next
      | .ok (.done d generated) =>
          let exhibit : Exhibit := ⟨g.fileName d, generated⟩
          let (warnings, failure) := warningLines generated.warnings
          let next : Preview := { state with
            log
            exhibits := state.exhibits ++ [exhibit]
            output := state.output ++ exhibitLines exhibit ++ warnings
            failure }
          if failure.isSome then next else preview g web files keepsGoing next rest

def pathRows : List FilePath → Option (List String)
  | [] => some []
  | path :: rest =>
      match Markup.render path.text, pathRows rest with
      | some row, some rows => some (row :: rows)
      | _, _ => none

def reportLines (report : BatchReport) (verbose : Bool) : List String × Option Failure :=
  match pathRows report.written with
  | none => ([], some .markup)
  | some rows =>
      let table := if rows.isEmpty then [] else "📦 Generated Modules" :: "File" :: rows
      let skipped :=
        if report.skipped = 0 then []
        else ["⚠️  " ++ Number.intText report.skipped ++ " definition(s) skipped"]
      let (warnings, failure) := if verbose then warningLines report.warnings else ([], none)
      (table ++ skipped ++ warnings, failure)

def languageRow (info : LanguageInfo) : String :=
  let aliases := if info.aliases.isEmpty then "none" else ", ".intercalate info.aliases
  "🔧 " ++ info.language ++ " " ++ info.extension ++ " " ++ info.className ++ " " ++ aliases

def languageRows (registry : Registry) (files : Files) :
    List String → Except Failure (List String)
  | [] => .ok []
  | language :: rest => do
      let info ← registry.info files language
      let rows ← languageRows registry files rest
      return languageRow info :: rows

def languageLines (registry : Registry) (files : Files) : Except Failure (List String) :=
  (languageRows registry files registry.languages).map fun rows =>
    ["", "📋 Supported Languages", "Language Extension Generator Class Aliases"] ++ rows ++ [""]

def argumentFault? (registry : Registry) (files : Files) (a : Arguments) : Option String :=
  if a.sources.isEmpty then some "--configuration is required"
  else if !registry.isSupported a.language then
    some ("Unsupported language '" ++ a.language ++ "'. Supported languages: " ++
      ", ".intercalate registry.languages)
  else if a.toStdout then none
  else
    match a.outputDirectory with
    | none | some "" => some "--output-dir is required unless --stdout is given"
    | some name =>
        let directory := FilePath.ofString name
        if !files.exists? directory then
          some ("Output directory does not exist: " ++ directory.text)
        else if !files.isDirectory directory then
          some ("Output directory points to a file: " ++ directory.text)
        else none

def settingsOf (a : Arguments) : List (String × Json) :=
  (if a.withoutComments then [("add_comments", Json.bool false)] else []) ++
  (match a.copyrightYear with
   | some year => [("copyright_year", Json.int year)]
   | none => []) ++
  (match a.moduleCase with
   | some style => [("module_case", Json.text style)]
   | none => [])

def configure (registry : Registry) (files : Files) (a : Arguments) :
    Except Failure (Configuration × List LogRecord) := do
  let language ← (registry.resolve a.language).mapError Failure.registry
  let configuration ← Configuration.load files language (.object (settingsOf a)) a.configFile
  let warnings ← configuration.warnings.mapError Failure.settings
  return (configuration,
    warnings.map fun warning => ⟨.warning, "Configuration: " ++ warning⟩)

/-- Faults that the user can mend are told with the usage of the command. -/
def usageMessage? : Failure → Option String
  | .configuration fault => some ("Configuration error: " ++ fault.message)
  | .registry fault => some fault.message
  | _ => none

/-- End a run with a message on how to use the command. -/
def refuse (session : Session) (message : String) : Session :=
  match Markup.render message with
  | some shown =>
      { session with
        exit := .ok .usage
        errors := session.errors ++ ("✗ Error: " ++ shown) :: Help.usage }
  | none => { session with exit := .error .markup }

def stop (session : Session) (failure : Failure) : Session :=
  match usageMessage? failure with
  | some message => session.refuse message
  | none => { session with exit := .error failure }

/-- End a run with the errors of definitions, if there are any. -/
def finish (session : Session) (errors : List String) : Session :=
  if errors.isEmpty then { session with exit := .ok .ok }
  else { session with exit := .ok .failure, errors := session.errors ++ errorLines errors }

def toStdout (registry : Registry) (web : Web) (a : Arguments) (configuration : Configuration)
    (session : Session) : Session :=
  match registry.createGenerator session.files a.language (.ready configuration) with
  | .error failure => session.stop failure
  | .ok g =>
      let shown := preview g web session.files a.keepsGoing {} a.sources
      let session := { session with
        output := session.output ++ shown.output
        log := session.log ++ shown.log }
      match shown.failure with
      | some failure => { session with exit := .error failure }
      | none => session.finish shown.errors

def batchOptions (a : Arguments) (configuration : Configuration) : BatchOptions where
  outputDirectory := .ofString (a.outputDirectory.getD "")
  packageStructure := a.packageStructure
  makesDirectories := a.makesDirectories
  keepsGoing := a.keepsGoing
  language := a.language
  configuration := .ready configuration

def toFiles (registry : Registry) (web : Web) (a : Arguments) (configuration : Configuration)
    (session : Session) : Session :=
  let batch := generateBatch registry session.files web a.sources (batchOptions a configuration)
    none
  let session := { session with files := batch.files, log := session.log ++ batch.log }
  match batch.failure with
  | some failure => session.stop failure
  | none =>
      let (lines, failure) := reportLines batch.report a.verbose
      let session := { session with output := session.output ++ lines }
      match failure with
      | some failure => { session with exit := .error failure }
      | none => session.finish batch.report.errors

def runArguments (registry : Registry) (files : Files) (web : Web) (a : Arguments) : Session :=
  let session : Session := { exit := .ok .ok, files, verbose := some a.verbose }
  if a.listsLanguages then
    match languageLines registry files with
    | .ok lines => { session with output := lines }
    | .error failure => { session with exit := .error failure }
  else
    match argumentFault? registry files a with
    | some message => session.refuse message
    | none =>
        match configure registry files a with
        | .error failure => session.stop failure
        | .ok (configuration, log) =>
            let session := { session with log }
            if a.toStdout then toStdout registry web a configuration session
            else toFiles registry web a configuration session

def run (registry : Registry) (files : Files) (web : Web) (arguments : List String) : Session :=
  match Arguments.parse arguments with
  | .error fault =>
      { exit := .ok .usage
        files
        errors := Help.usage ++ [Help.program ++ ": error: " ++ fault.message] }
  | .ok .showHelp => { exit := .ok .ok, files, output := Help.lines }
  | .ok .showVersion => { exit := .ok .ok, files, output := [Help.versionText] }
  | .ok (.run a) => runArguments registry files web a

end Session

end OptionProtocol
