-- Finding, reading and writing entries by path, and why that may not work. Symbolic links
-- are followed, and every directory on the way must allow it.
import SourceAtlas.Files.Entry
import SourceAtlas.Text.Quoted

namespace SourceAtlas

/-! ## Faults -/

/-- The causes that a file system gives. -/
inductive Cause where
  | notFound
  | denied
  | notDirectory
  | isDirectory
  | nameTooLong
  | tooManyLinks
  /-- The file can take no more. -/
  | noSpace
  /-- The path holds the character that ends paths. The file system is never asked. -/
  | embeddedNul
  deriving DecidableEq, Repr, Inhabited

namespace Cause

def message : Cause → String
  | notFound => "[Errno 2] No such file or directory"
  | denied => "[Errno 13] Permission denied"
  | notDirectory => "[Errno 20] Not a directory"
  | isDirectory => "[Errno 21] Is a directory"
  | nameTooLong => "[Errno 36] File name too long"
  | tooManyLinks => "[Errno 40] Too many levels of symbolic links"
  | noSpace => "[Errno 28] No space left on device"
  | embeddedNul => "embedded null byte"

end Cause

/-- A cause with the path that was asked for, when there was one. -/
structure Fault where
  cause : Cause
  path : Option String := none
  deriving DecidableEq, Repr, Inhabited

def Fault.message (f : Fault) : String :=
  match f.path with
  | some p => f.cause.message ++ ": " ++ Text.quoted p
  | none => f.cause.message

/-! ## Following a path -/

/-- Where a path leads. -/
inductive Spot where
  /-- To an entry that is there. -/
  | found (place : List String)
  /-- To a name that is still free in a directory that is there. -/
  | free (parent : List String) (name : String)
  /-- To the current directory after it was removed: a directory with nothing in it. -/
  | orphan
  deriving DecidableEq, Repr, Inhabited

namespace Files

/-- More links than this on one way are too many. -/
def maxLinks : Nat := 40

/-- The most bytes that a name may have. -/
def maxName : Nat := 255

/-- The most bytes that a path may have. -/
def maxPath : Nat := 4095

/-- The names of a path, steps on the spot and steps up included. A slash at the end is
kept as an empty name: it asks for a directory. -/
def names (path : String) : List String :=
  let parts := (Text.split '/' path).filter (· != "")
  if Text.endsWith path "/" && !parts.isEmpty then parts ++ [""] else parts

/-- The last name of a way can only be that of a directory, so that no file can be put
there. -/
def endsInDirectory (name : String) (rest : List String) : Bool :=
  rest == [""] || (rest.isEmpty && (name == "." || name == ".."))

/-- Follows a list of names from the directory `place`. When something is to be `made` at
the end, the way may not end in a directory. -/
def follow (root : Entry) (made : Bool) (links : Nat) (place : List String)
    (rest : List String) : Except Cause Spot :=
  match rest with
  | [] => .ok (.found place)
  | name :: rest =>
    match root.at? place with
    | some (.directory mode es) =>
      if name == "" then follow root made links place rest
      else if !mode.execute then .error .denied
      else if made && endsInDirectory name rest then .error .isDirectory
      else if name == "." then follow root made links place rest
      else if name == ".." then follow root made links place.dropLast rest
      else if maxName < name.utf8ByteSize then .error .nameTooLong
      else
        match (Entry.directory mode es).child? name with
        | none => if rest.isEmpty then .ok (.free place name) else .error .notFound
        | some (.link target) =>
          match links with
          | 0 => .error .tooManyLinks
          | links + 1 =>
            let start := if Path.isAbsolute target then [] else place
            follow root made links start (names target ++ rest)
        | some _ => follow root made links (place ++ [name]) rest
    | some _ => .error .notDirectory
    | none => .error .notFound
termination_by (links, rest.length)

/-- Follows a list of names from the current directory after it was removed. Nothing can be
found in it, and a step up leads to the directory that it stood in. -/
def followRemoved (root : Entry) (made : Bool) (parent : List String) :
    List String → Except Cause Spot
  | [] => .ok .orphan
  | name :: rest =>
    if made && endsInDirectory name rest then .error .isDirectory
    else if name == "" || name == "." then followRemoved root made parent rest
    else if name == ".." then follow root made maxLinks parent rest
    else .error .notFound

/-- Where a path leads, before it is asked what is there. -/
def locate (f : Files) (made : Bool) (path : String) : Except Cause Spot :=
  if path.toList.contains '\x00' then .error .embeddedNul
  else if path == "" then .error .notFound
  else if maxPath < path.utf8ByteSize then .error .nameTooLong
  else if Path.isAbsolute path then follow f.root made maxLinks [] (names path)
  else
    match f.here with
    | .present place => follow f.root made maxLinks place (names path)
    | .removed parent => followRemoved f.root made parent (names path)

/-- The place and the entry that a path leads to. -/
def find (f : Files) (path : String) : Except Cause (Option (List String) × Entry) := do
  match ← f.locate false path with
  | .orphan => return (none, .emptyDirectory)
  | .free _ _ => throw .notFound
  | .found place =>
    match f.root.at? place with
    | none => throw .notFound
    | some e => return (some place, e)

/-! ## Asking and reading -/

/-- Something is there. -/
def exists? (f : Files) (path : String) : Bool := (f.find path).toOption.isSome

/-- A directory is there. -/
def isDirectory (f : Files) (path : String) : Bool :=
  (f.find path).toOption.any (·.2.isDirectory)

/-- A file is there. Not being allowed to look is a fault, and so is a name that is too
long; any other reason for not finding one is a no. -/
def isFile (f : Files) (path : String) : Except Fault Bool :=
  match f.find path with
  | .ok (_, .file _ _) => .ok true
  | .ok _ => .ok false
  | .error .denied => .error ⟨.denied, path⟩
  | .error .nameTooLong => .error ⟨.nameTooLong, path⟩
  | .error _ => .ok false

/-- Reads a file. -/
def read (f : Files) (path : String) : Except Fault Content :=
  match f.find path with
  | .error cause => .error ⟨cause, path⟩
  | .ok (_, .file mode content) => if mode.read then .ok content else .error ⟨.denied, path⟩
  | .ok (_, .directory mode _) => .error ⟨if mode.read then .isDirectory else .denied, path⟩
  | .ok (_, .link _) => .error ⟨.notFound, path⟩

/-- Lists a directory. -/
def list (f : Files) (path : String) : Except Fault (List (String × Entry)) :=
  match f.find path with
  | .error cause => .error ⟨cause, path⟩
  | .ok (_, .directory mode es) => if mode.read then .ok es else .error ⟨.denied, path⟩
  | .ok _ => .error ⟨.notDirectory, path⟩

/-! ## Writing -/

/-- The place that a file can be written to. A new file needs a directory that may be
changed, an old one must allow the change itself. -/
def writable (f : Files) (path : String) : Except Cause (List String) := do
  match ← f.locate true path with
  | .orphan => throw .isDirectory
  | .free parent name =>
    match f.root.at? parent with
    | some (.directory mode _) =>
      if mode.write then return parent ++ [name] else throw .denied
    | _ => throw .notFound
  | .found place =>
    match f.root.at? place with
    | some (.directory _ _) => throw .isDirectory
    | some (.file mode _) => if mode.write then return place else throw .denied
    | _ => throw .notFound

/-- What a file with the content takes the place of. An older file keeps its mode. -/
def replaced (content : Content) : Option Entry → Entry
  | some (.file mode _) => .file mode content
  | _ => .file {} content

/-- The files with the content at a place. -/
def put (f : Files) (place : List String) (content : Content) : Files :=
  { f with root := Entry.alter (replaced content) place (some f.root) }

/-- The part of the data that the file at a place can take. -/
def fitting (f : Files) (place : List String) (data : ByteArray) : ByteArray :=
  match f.room place with
  | none => data
  | some n => data.extract 0 n

/-- How writing a file ended: the files afterwards, and what went wrong if something did. -/
structure Writing where
  files : Files
  fault : Option Fault := none
  deriving Inhabited

/-- Writes a text to a file, which is made when it is not there. What an older file held is gone
as soon as the file is open, so a text that does not fit leaves its beginning and nothing else. -/
def write (f : Files) (path text : String) : Writing :=
  match f.writable path with
  | .error cause => { files := f, fault := some ⟨cause, path⟩ }
  | .ok place =>
    let kept := f.fitting place text.toUTF8
    { files := f.put place (.bytes kept)
      fault := if kept.size < text.toUTF8.size then some ⟨.noSpace, none⟩ else none }

end Files

end SourceAtlas
