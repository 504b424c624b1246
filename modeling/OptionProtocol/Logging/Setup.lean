import OptionProtocol.Number.Reading
import OptionProtocol.Text.Digit
import OptionProtocol.Text.LetterCase

/-! Setting up the log: the lowest level that is recorded, and where records go. -/

set_option autoImplicit false

namespace OptionProtocol

inductive LogTarget where
  | console
  | file (name : String)
  deriving DecidableEq, Repr

inductive LevelSetting where
  | number (value : Int)
  | name (value : String)
  | other
  deriving DecidableEq, Repr

inductive LevelFault where
  | unknownName
  | noLevel
  deriving DecidableEq, Repr

namespace LevelSetting

def named : List (String × Int) := [
  ("CRITICAL", 50), ("FATAL", 50), ("ERROR", 40), ("WARN", 30), ("WARNING", 30), ("INFO", 20),
  ("DEBUG", 10), ("NOTSET", 0)]

/-- The number of a level. Names are written in capitals. -/
def value : LevelSetting → Except LevelFault Int
  | .number level => .ok level
  | .name word =>
      match named.lookup word with
      | some level => .ok level
      | none => .error .unknownName
  | .other => .error .noLevel

/-- Words that the environment may give for a level though they name none. -/
def misnomers : List (String × LevelSetting) := [
  ("BASIC_FORMAT", .name "BASIC_FORMAT"), ("_STYLES", .other)]

/-- The level that the environment asks for: a number, or a name in any case. Other words
leave the level as it is. -/
def ofEnvironment (text : String) (level : LevelSetting) : LevelSetting :=
  if text = "" then level
  else if text.toList.all Text.isDigit then
    match Number.readInt? text with
    | some level => .number level
    | none => .name text
  else
    let word := Text.uppered text
    match named.lookup word, misnomers.lookup word with
    | some level, _ => .number level
    | none, some setting => setting
    | none, none => level

end LevelSetting

/-- The state of the log. `noisyLevel` is that of libraries that would tell too much. -/
structure LogState where
  level : Int := 30
  targets : List LogTarget := []
  noisyLevel : Int := 0
  isSetUp : Bool := false
  deriving DecidableEq, Repr

structure LogEnvironment where
  level : Option String := none
  file : Option String := none
  deriving DecidableEq, Repr

namespace LogState

/-- The targets of a log with a file of the given name, if any. -/
def targetsFor (file : Option String) : List LogTarget :=
  match file with
  | none | some "" => [.console]
  | some name => [.console, .file name]

/-- Set the log up. One that is set up already only gets another level unless it is forced.
A level that is refused leaves no targets behind. -/
def setUp (state : LogState) (environment : LogEnvironment) (level : LevelSetting)
    (file : Option String) (force : Bool) : LogState × Option LevelFault :=
  if state.isSetUp && !force then
    match level.value with
    | .ok value => ({ state with level := value }, none)
    | .error fault => (state, some fault)
  else
    let level := LevelSetting.ofEnvironment (environment.level.getD "") level
    match level.value with
    | .error fault => ({ state with targets := [] }, some fault)
    | .ok value =>
        ({ level := value
           targets := targetsFor (environment.file.or file)
           noisyLevel := 30
           isSetUp := true }, none)

end LogState

end OptionProtocol
