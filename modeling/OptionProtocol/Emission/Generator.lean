import OptionProtocol.Definition.Basic
import OptionProtocol.Emission.Formatting
import OptionProtocol.Failure
import OptionProtocol.Logging

/-! Generators of code: what each has to offer, and the run that turns a definition into
formatted code. -/

set_option autoImplicit false

namespace OptionProtocol

structure Generator where
  language : String
  extension : String
  className : String
  configuration : Configuration
  templates : List String := []
  warnings : Definition → List String
  emit : Definition → Except Failure String
  fileName : Definition → String

/-- Why a configuration suits no generator of a class. -/
inductive CreationFault where
  | customNotMapping (callee kind : String)
  | customUnnamed
  | customRepeats (callee key : String)
  deriving DecidableEq, Repr

def CreationFault.message : CreationFault → String
  | .customNotMapping callee kind =>
      callee ++ "() argument after ** must be a mapping, not " ++ kind
  | .customUnnamed => "keywords must be strings"
  | .customRepeats callee key =>
      callee ++ ".__init__() got multiple values for argument '" ++ key ++ "'"

/-- A kind of generator: its name, where it is defined, and how one is set up. -/
structure GeneratorClass where
  name : String
  moduleName : String
  create : Configuration → Except CreationFault Generator

structure GenerationSummary where
  language : String
  extension : String
  className : String
  fileName : String
  optionCount : Nat
  isRoot : Bool
  derivedFlags : Nat
  deriving DecidableEq, Repr

structure GeneratedCode where
  code : String
  warnings : List String
  summary : GenerationSummary
  deriving DecidableEq, Repr

/-- How a generation ends: with code, or with a message about what stopped it. -/
inductive Generation where
  | done (generated : GeneratedCode)
  | refused (message : String) (cause : Failure)

namespace Definition

/-- Where a definition comes from, or else its name. -/
def context (d : Definition) : String :=
  match d.source with
  | some source => if source = "" then d.name else source
  | none => d.name

def optionWarnings (d : Definition) (option : OptionDefinition) : List String :=
  (if option.help = "" then
     ["Option " ++ d.className ++ "." ++ option.property ++ " has no help text"]
   else []) ++
  (if option.type.element.kind = .flag ∧ option.default ≠ "False" then
     ["Flag " ++ d.className ++ "." ++ option.property ++ " defaults to " ++ option.default ++
       ", which the command line cannot switch off"]
   else [])

def warnings (d : Definition) : List String :=
  (if d.options.isEmpty then ["Class '" ++ d.className ++ "' declares no options"] else []) ++
    d.options.flatMap d.optionWarnings

end Definition

namespace Generator

def summary (g : Generator) (d : Definition) : GenerationSummary where
  language := g.language
  extension := g.extension
  className := d.className
  fileName := g.fileName d
  optionCount := d.options.length
  isRoot := d.isRoot
  derivedFlags := (d.options.filter OptionDefinition.flagDerived).length

def hasTemplate (g : Generator) (name : String) : Bool := g.templates.contains name

/-- Generate the code of a definition. What the definition is to blame for is refused; other
failures are passed on. -/
def generate (g : Generator) (d : Definition) : Logged Failure Generation :=
  match g.emit d with
  | .ok code =>
      let warnings := g.warnings d
      { result := .ok (.done ⟨formatCode code, warnings, g.summary d⟩)
        log := warnings.map fun warning => ⟨.warning, d.context ++ ": " ++ warning⟩ }
  | .error failure =>
      match failure.message? with
      | none => ⟨.error failure, []⟩
      | some message =>
          { result := .ok (.refused
              ("Code generation failed for " ++ d.context ++ " (" ++ d.name ++ "): " ++ message)
              failure)
            log := [⟨.error, "Code generation failed for " ++ d.context ++ ": " ++ message⟩] }

end Generator

end OptionProtocol
