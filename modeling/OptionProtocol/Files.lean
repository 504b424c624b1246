import OptionProtocol.FilePath
import OptionProtocol.Text.Quoted
import OptionProtocol.Text.Utf8

/-! A tree of files and directories, and what can go wrong in it. -/

set_option autoImplicit false

namespace OptionProtocol

inductive Content where
  | text (value : String)
  | bytes (value : List UInt8)
  deriving DecidableEq, Repr

inductive Node where
  | directory
  | file (content : Content)
  deriving DecidableEq, Repr

inductive OsCause where
  | noSuchFile
  | fileExists
  | notDirectory
  | isDirectory
  deriving DecidableEq, Repr

def OsCause.message : OsCause → String
  | .noSuchFile => "[Errno 2] No such file or directory"
  | .fileExists => "[Errno 17] File exists"
  | .notDirectory => "[Errno 20] Not a directory"
  | .isDirectory => "[Errno 21] Is a directory"

structure OsFault where
  cause : OsCause
  path : FilePath
  deriving DecidableEq, Repr

def OsFault.message (fault : OsFault) : String :=
  fault.cause.message ++ ": " ++ Text.quoted fault.path.text

/-- The place of a node: the names on the way from the root. -/
abbrev Place := List String

/-- What the tree holds, newest first, and the directory that relative paths start from.
The root is always a directory. -/
structure Files where
  nodes : List (Place × Node) := []
  here : Place := []
  deriving Repr

namespace Files

def node? (files : Files) (place : Place) : Option Node :=
  if place.isEmpty then some .directory else files.nodes.lookup place

/-- Go on from a place along the names. All places passed have to be directories; the last
one need not exist. -/
def walk (files : Files) (place : Place) : List String → Except OsCause Place
  | [] => .ok place
  | name :: rest =>
      match files.node? place with
      | some .directory =>
          walk files (if name = ".." then place.dropLast else place ++ [name]) rest
      | some (.file _) => .error .notDirectory
      | none => .error .noSuchFile

def locate (files : Files) (path : FilePath) : Except OsCause Place :=
  files.walk (if path.isAbsolute then [] else files.here) path.names

def find? (files : Files) (path : FilePath) : Option Node :=
  match files.locate path with
  | .ok place => files.node? place
  | .error _ => none

def exists? (files : Files) (path : FilePath) : Bool := (files.find? path).isSome

def isFile (files : Files) (path : FilePath) : Bool :=
  match files.find? path with
  | some (.file _) => true
  | _ => false

def isDirectory (files : Files) (path : FilePath) : Bool :=
  files.find? path == some .directory

def put (files : Files) (place : Place) (node : Node) : Files :=
  { files with nodes := (place, node) :: files.nodes.filter fun entry => entry.1 != place }

def read (files : Files) (path : FilePath) : Except OsFault Content :=
  match files.locate path with
  | .error cause => .error ⟨cause, path⟩
  | .ok place =>
      match files.node? place with
      | some (.file content) => .ok content
      | some .directory => .error ⟨.isDirectory, path⟩
      | none => .error ⟨.noSuchFile, path⟩

def write (files : Files) (path : FilePath) (text : String) : Except OsFault Files :=
  match files.locate path with
  | .error cause => .error ⟨cause, path⟩
  | .ok place =>
      match files.node? place with
      | some .directory => .error ⟨.isDirectory, path⟩
      | _ => .ok (files.put place (.file (.text text)))

def makeDirectory (files : Files) (path : FilePath) : Except OsFault Files :=
  match files.locate path with
  | .error cause => .error ⟨cause, path⟩
  | .ok place =>
      match files.node? place with
      | some _ => .error ⟨.fileExists, path⟩
      | none => .ok (files.put place .directory)

/-- Make a directory that may be there already. -/
def ensureDirectory (files : Files) (path : FilePath) : Except OsFault Files :=
  match files.makeDirectory path with
  | .ok files => .ok files
  | .error fault => if files.isDirectory path then .ok files else .error fault

/-- Make a directory and the missing ones above it. Directories made before a refusal stay. -/
def ensureDirectories (files : Files) (path : FilePath) : Files × Option OsFault :=
  match files.makeDirectory path with
  | .ok files => (files, none)
  | .error fault =>
      if fault.cause = .noSuchFile then
        if path.names = [] then (files, some fault)
        else
          match ensureDirectories files path.parent with
          | (files, some fault) => (files, some fault)
          | (files, none) =>
              match files.ensureDirectory path with
              | .ok files => (files, none)
              | .error fault => (files, some fault)
      else if files.isDirectory path then (files, none)
      else (files, some fault)
termination_by path.names.length
decreasing_by
  have := List.length_pos_iff.mpr ‹¬path.names = []›
  simp only [FilePath.parent, List.length_dropLast]
  omega

end Files

/-- The text of a file. Line ends of all kinds become line feeds. -/
def Content.decode (content : Content) : Except Utf8.Fault String :=
  match content with
  | .text value => .ok (Text.over Text.normalizeLineEnds value)
  | .bytes value => (Utf8.decode value).map (Text.over Text.normalizeLineEnds)

end OptionProtocol
