import OptionProtocol.Text.LetterCase
import OptionProtocol.Text.Basic

/-! Paths of files: where a path starts and the names on its way. -/

set_option autoImplicit false

namespace OptionProtocol

/-- Where a path starts. Two leading slashes are a root of their own, more are one. -/
inductive PathStart where
  | here
  | root
  | doubleRoot
  deriving DecidableEq, Repr

/-- A path without empty names and without `.`; the name `..` is kept. -/
structure FilePath where
  start : PathStart := .here
  names : List String := []
  deriving DecidableEq, Repr

namespace FilePath

def startOf (s : List Char) : PathStart :=
  match s with
  | '/' :: '/' :: '/' :: _ => .root
  | '/' :: '/' :: _ => .doubleRoot
  | '/' :: _ => .root
  | _ => .here

def namesOf (s : String) : List String :=
  (Text.pieces '/' s).filter fun name => name != "" && name != "."

def ofString (s : String) : FilePath := ⟨startOf s.toList, namesOf s⟩

def isAbsolute (path : FilePath) : Bool := path.start != .here

def text (path : FilePath) : String :=
  let names := "/".intercalate path.names
  match path.start with
  | .here => if path.names.isEmpty then "." else names
  | .root => "/" ++ names
  | .doubleRoot => "//" ++ names

/-- The path that `segment` names from here; one that starts at a root stands alone. -/
def join (path : FilePath) (segment : String) : FilePath :=
  let next := ofString segment
  if next.isAbsolute then next else ⟨path.start, path.names ++ next.names⟩

/-- The directory that holds the path; a start holds itself. -/
def parent (path : FilePath) : FilePath := ⟨path.start, path.names.dropLast⟩

def name (path : FilePath) : String := path.names.getLast?.getD ""

/-- The last name from its last dot on, unless that dot begins or ends it. -/
def extension (path : FilePath) : String :=
  let cs := path.name.toList
  let tail := (cs.reverse.takeWhile (· ≠ '.')).reverse
  let before := cs.length - tail.length
  if tail.isEmpty || before ≤ 1 then "" else String.ofList ('.' :: tail)

def isJson (path : FilePath) : Bool := Text.lowered path.extension == ".json"

end FilePath

end OptionProtocol
