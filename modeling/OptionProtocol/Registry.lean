import OptionProtocol.Configuration.Storage
import OptionProtocol.Emission.Python

/-! Registries: which classes of generators there are for which languages, and the other
names of those languages. -/

set_option autoImplicit false

namespace OptionProtocol

/-- Languages with their classes of generators, and other names with the languages that they
stand for. All names are in lower case, and each is there once. -/
structure Registry where
  classes : List (String × GeneratorClass) := []
  aliases : List (String × String) := []

/-- How a caller asks for a generator to be set up. -/
inductive ConfigurationSource where
  | default
  | file (name : String)
  | given (members : List (String × Json))
  | ready (configuration : Configuration)
  | other (kind : String)

/-- What a value in place of a configuration asks for. -/
def ConfigurationSource.ofJson : Json → ConfigurationSource
  | .null => .default
  | .text name => .file name
  | .object members => .given members
  | value => .other value.kindName

structure LanguageInfo where
  language : String
  className : String
  extension : String
  aliases : List String
  moduleName : String
  deriving DecidableEq, Repr

namespace Registry

def class? (r : Registry) (language : String) : Option GeneratorClass :=
  r.classes.lookup language

def hasLanguage (r : Registry) (language : String) : Bool := (r.class? language).isSome

def languages (r : Registry) : List String :=
  (r.classes.map Prod.fst).mergeSort fun a b => decide (a ≤ b)

def aliasesOf (r : Registry) (language : String) : List String :=
  ((r.aliases.filter fun entry => entry.2 == Text.lowered language).map Prod.fst).mergeSort
    fun a b => decide (a ≤ b)

/-- Why an other name may not be given to a language without taking it from another one. -/
def aliasFault? (r : Registry) (language written : String) : Option RegistryFault :=
  let name := Text.lowered written
  if r.hasLanguage name then some (.aliasIsLanguage written)
  else
    match r.aliases.lookup name with
    | some target => if target = language then none else some (.aliasTaken written target)
    | none => none

/-- Give other names to a language, one after the other up to the first that is refused. -/
def addAliases (r : Registry) (language : String) (replace : Bool) :
    List String → Registry × Option RegistryFault
  | [] => (r, none)
  | written :: rest =>
      let name := Text.lowered written
      if name = language then r.addAliases language replace rest
      else
        match if replace then none else r.aliasFault? language written with
        | some fault => (r, some fault)
        | none =>
            ({ r with aliases := Json.put r.aliases name language } : Registry).addAliases
              language replace rest

/-- Register a class of generators for a language. A language that is there already is only
changed if it is to be replaced. A refused name leaves what was done before it. -/
def register (r : Registry) (language : String) (class? : Option GeneratorClass)
    (aliases : List String) (replace : Bool) : Registry × Option RegistryFault :=
  match class? with
  | none => (r, some .noGenerator)
  | some generatorClass =>
      let name := Text.lowered language
      if r.hasLanguage name && !replace then (r, none)
      else
        ({ r with classes := Json.put r.classes name generatorClass } : Registry).addAliases
          name replace aliases

def unregister (r : Registry) (language : String) : Registry where
  classes := r.classes.filter fun entry => entry.1 != Text.lowered language
  aliases := r.aliases.filter fun entry => entry.2 != Text.lowered language

def unknownLanguage (r : Registry) (language : String) : RegistryFault :=
  .unknownLanguage language r.languages

def resolve (r : Registry) (language : String) : Except RegistryFault String :=
  let name := Text.lowered language
  if r.hasLanguage name then .ok name
  else
    match r.aliases.lookup name with
    | some target => .ok target
    | none => .error (r.unknownLanguage language)

def generatorClass (r : Registry) (language : String) : Except RegistryFault GeneratorClass :=
  match r.resolve language with
  | .error fault => .error fault
  | .ok name =>
      match r.class? name with
      | some found => .ok found
      | none => .error (r.unknownLanguage language)

def isSupported (r : Registry) (language : String) : Bool :=
  r.hasLanguage (Text.lowered language) || (r.aliases.lookup (Text.lowered language)).isSome

def configurationFrom (files : Files) (language : String) :
    ConfigurationSource → Except Failure Configuration
  | .default => Configuration.load files language .null none
  | .file name => Configuration.load files language .null (some name)
  | .given members => Configuration.load files language (.object members) none
  | .ready configuration => .ok configuration
  | .other kind => .error (.registry (.invalidConfiguration kind))

/-- What the registry says about a configuration that could not be made. -/
def creationFailure (language : String) (failure : Failure) : Failure :=
  match failure with
  | .configuration fault => .registry (.notCreated language fault.message)
  | .settings fault =>
      match fault.typeMessage? with
      | some message => .registry (.notCreated language message)
      | none => failure
  | failure => failure

def createGenerator (r : Registry) (files : Files) (language : String)
    (source : ConfigurationSource) : Except Failure Generator :=
  match r.resolve language with
  | .error fault => .error (.registry fault)
  | .ok name =>
      match r.class? name with
      | none => .error (.registry (r.unknownLanguage language))
      | some generatorClass =>
          match configurationFrom files name source with
          | .error failure => .error (creationFailure language failure)
          | .ok configuration =>
              match generatorClass.create configuration with
              | .ok generator => .ok generator
              | .error fault => .error (.registry (.notCreated language fault.message))

def info (r : Registry) (files : Files) (language : String) : Except Failure LanguageInfo := do
  let name ← (r.resolve language).mapError Failure.registry
  let generatorClass ← (r.generatorClass name).mapError Failure.registry
  let generator ← r.createGenerator files name .default
  return {
    language := generator.language
    className := generator.className
    extension := generator.extension
    aliases := r.aliasesOf name
    moduleName := generatorClass.moduleName }

def standard : Registry :=
  (({} : Registry).register "python" (some Python.generatorClass) ["py"] false).1

end Registry

end OptionProtocol
