-- The program itself. It reads the part of the real file tree that a command line
-- speaks of, runs the command on it, prints, and writes what the command has written.
import SourceAtlas.Command.Run

namespace SourceAtlas.Program

/-! ## Reading the real file tree -/

/-- The path in the form that the system works with. -/
def located (path : String) := (· / path) <$> IO.currentDir

/-- The entry at a path, with all that is below it. Links to directories stay links, and
what cannot be opened is kept as something that may not be read. -/
partial def readEntry (path : String) : IO Entry := do
  let place ← located path
  match (← place.symlinkMetadata).type with
  | .symlink =>
    try
      match (← place.metadata).type with
      | .dir => return .link (← IO.FS.realPath path).toString
      | _ => readFile path
    catch _ => return .link ""
  | .dir =>
    try
      let names := (← place.readDir).toList.map (·.fileName)
      let entries ← names.mapM fun name => do
        return (name, ← readEntry (Path.join path name))
      return .directory {} entries
    catch _ => return .directory { read := false } []
  | _ => readFile path
where
  readFile (path : String) : IO Entry := do
    try
      return .file {} (.bytes (← IO.FS.readBinFile path))
    catch _ => return .file { read := false } (.bytes ByteArray.empty)

/-- Adds to a file tree what stands at a path; nothing when nothing is there. -/
def addTo (f : Files) (path : String) (read : String → IO Entry) : IO Files := do
  match f.absolute? path with
  | none => return f
  | some full =>
    try
      let entry ← read full
      return { f with
        root := Entry.alter (fun _ => entry) (Path.components full) (some f.root) }
    catch _ => return f

/-- The directory that a file would be written to, without what is in it. -/
def emptied (path : String) : IO Entry := do
  match (← (← located path).metadata).type with
  | .dir => return .emptyDirectory
  | _ => readEntry path

/-- Everything that a command can ask about. -/
def filesFor (argv : List String) : IO Files := do
  let here := Path.components (← IO.currentDir).toString
  let start : Files := { here := .present here }
  match Command.ofArguments argv with
  | .ok (_, .collect o) =>
    let f ← addTo start (Path.directory o.output) emptied
    let f ← addTo f "." emptied
    let f ← addTo f o.path readEntry
    if f.exists? o.output then return f else addTo f o.output emptied
  | _ => return start

/-! ## Running -/

/-- Writes the file that a command has written, and tells whether that worked. -/
def store (files : Files) (path : String) : IO Bool := do
  match files.read path with
  | .ok content =>
    try
      IO.FS.writeBinFile path content.data
      return true
    catch _ => return false
  | .error _ => return true

/-- The same file tree, but nothing may be written to the path. -/
def locked (f : Files) (path : String) : Files :=
  match f.writable path with
  | .error _ => f
  | .ok place =>
    let lock (e : Option Entry) : Entry := (e.getD .emptyDirectory).withMode { write := false }
    let place := if f.exists? path then place else place.dropLast
    { f with root := Entry.alter lock place (some f.root) }

/-- Runs a command line and writes its file. When the system refuses to write, the run is
the one on a file tree that refuses it too. -/
def runOn (files : Files) (argv : List String) : IO Ending := do
  let ending := Command.run files false argv
  match Command.ofArguments argv, ending.result with
  | .ok (_, .collect o), .ok 0 =>
    if ← store ending.files o.output then return ending
    return Command.run (locked files o.output) false argv
  | _, _ => return ending

/-- Prints what a run has printed, and gives its exit code. -/
def conclude (ending : Ending) : IO UInt32 := do
  IO.print ending.output
  IO.eprint ending.errors
  match ending.served, ending.result with
  | some o, _ =>
    IO.eprintln ("no server for " ++ o.host ++ ":" ++ toString o.port ++ " in this program")
    return 1
  | none, .ok code => return code.toUInt32
  | none, .error (.fault fault) =>
    IO.eprintln fault.message
    return 1
  | none, .error _ =>
    IO.eprintln "something that should be text is not"
    return 1

end SourceAtlas.Program

open SourceAtlas in
def main (argv : List String) : IO UInt32 := do
  let files ← Program.filesFor argv
  Program.conclude (← Program.runOn files argv)
