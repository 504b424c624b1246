import OptionProtocol.Failure
import OptionProtocol.Json.Printer

/-! Configurations in files: what a language starts from, what a file and a caller change,
and how a configuration is saved. -/

set_option autoImplicit false

namespace OptionProtocol.Configuration

def settingsOfText (path : FilePath) (text : String) :
    Except Failure (List (String × Json)) :=
  match Json.parse text with
  | .ok (.object members) => .ok members
  | .ok _ => .error (.configuration (.notAnObject path))
  | .error (.integerTooLong _) => .error (.value .badValue)
  | .error fault => .error (.configuration (.invalidJson path fault))

def readSettings (files : Files) (path : FilePath) : Except Failure (List (String × Json)) :=
  if !files.exists? path then .error (.configuration (.notFound path))
  else if !path.isJson then .error (.configuration (.notJson path))
  else
    match files.read path with
    | .error fault => .error (.configuration (.unreadable path fault))
    | .ok content =>
        match content.decode with
        | .error _ => .error (.value .undecodable)
        | .ok text => settingsOfText path text

def givenSettings (given : Json) : Except Failure (List (String × Json)) :=
  if given.isTruthy then
    match settings given with
    | .ok members => .ok members
    | .error fault => .error (.settings fault)
  else .ok []

/-- The configuration for a language: its defaults, changed by a file if one is named, changed
by what is given. -/
def load (files : Files) (language : String) (given : Json) (file : Option String) :
    Except Failure Configuration := do
  let inFile ← match file with
    | none | some "" => pure []
    | some name => readSettings files (.ofString name)
  let given ← givenSettings given
  match ofSettings (Json.putAll (Json.putAll (defaultsFor language) inFile) given) with
  | .ok configuration => return configuration
  | .error fault => throw (.settings fault)

def save (c : Configuration) (files : Files) (path : FilePath) : Except Failure Files :=
  match c.toJson with
  | .error fault => .error (.settings fault)
  | .ok json =>
      match files.write path json.print with
      | .ok files => .ok files
      | .error fault => .error (.configuration (.unsaved path fault))

end OptionProtocol.Configuration
