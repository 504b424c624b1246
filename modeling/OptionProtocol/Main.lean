import OptionProtocol.Console.Session

/-! The command. It takes what its arguments name from the disk, runs, writes what the run has
changed and prints what it has to tell. It has no connection to the web. -/

set_option autoImplicit false

namespace OptionProtocol.Disk

def name (place : Place) : String := "/" ++ "/".intercalate place

def placeOf (here : Place) (path : FilePath) : Place :=
  path.names.foldl (fun place step => if step = ".." then place.dropLast else place ++ [step])
    (if path.isAbsolute then [] else here)

/-- The directories from the root down to a place, without the place itself. -/
def above (place : Place) : List Place :=
  (List.range (place.length - 1)).map fun count => place.take (count + 1)

def placesOf (here : Place) (arguments : List String) : List Place :=
  match Arguments.parse arguments with
  | .ok (.run a) =>
      (a.sources ++ a.configFile.toList ++ a.outputDirectory.toList).map fun text =>
        placeOf here (.ofString text)
  | _ => []

/-- Everything from a place of the disk downwards. Contents are taken of the place itself. -/
partial def scan (root : IO.FS.DirEntry) (place : Place) : IO (List (Place × Node)) := do
  let path := root.root / root.fileName
  if ← path.isDir then
    let mut nodes := [(place, Node.directory)]
    for entry in ← path.readDir do
      if ← entry.path.isDir then
        nodes := nodes ++ (← scan entry (place ++ [entry.fileName]))
      else
        nodes := nodes ++ [(place ++ [entry.fileName], Node.file (.bytes []))]
    return nodes
  else if ← path.pathExists then
    let bytes ← IO.FS.readBinFile path
    return [(place, Node.file (.bytes bytes.toList))]
  else return []

def take (here : Place) (arguments : List String) : IO Files := do
  let mut nodes := (above here ++ [here]).map fun place => (place, Node.directory)
  for place in placesOf here arguments do
    nodes := nodes ++ (above place).map (fun place => (place, Node.directory))
    nodes := nodes ++ (← scan ⟨"/", "/".intercalate place⟩ place)
  return { nodes, here }

/-- Write what a run has changed, outer directories first. -/
def put (before after : Files) : IO Unit := do
  for (place, node) in after.nodes.reverse do
    if before.node? place ≠ some node then
      match node with
      | .directory => IO.FS.createDirAll (name place)
      | .file (.text text) => IO.FS.writeFile (name place) text
      | .file (.bytes _) => pure ()

end OptionProtocol.Disk

open OptionProtocol in
def main (arguments : List String) : IO UInt32 := do
  let here := FilePath.namesOf (← IO.currentDir).toString
  let before ← Disk.take here arguments
  let session := Session.run Registry.standard before (fun _ => .noConnection "offline") arguments
  Disk.put before session.files
  for record in session.log do
    IO.eprintln (record.level.name ++ " " ++ record.message)
  for line in session.output do
    IO.println line
  for line in session.errors do
    IO.eprintln line
  match session.exit with
  | .ok code => return code.toNat.toUInt32
  | .error failure =>
      IO.eprintln (failure.message?.getD "stopped by a value that is no use")
      return 1
