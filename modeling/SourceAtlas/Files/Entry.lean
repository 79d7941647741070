-- A file tree as a value: directories, files and symbolic links, with the
-- permissions of their owner.
import SourceAtlas.Path
import SourceAtlas.Tree.Node

namespace SourceAtlas

/-- What the owner may do. For a directory, `execute` is the right to look things up in
it. -/
structure Mode where
  read : Bool := true
  write : Bool := true
  execute : Bool := true
  deriving DecidableEq, Repr, Inhabited

/-- What a file holds: bytes, or a syntax tree in place of the text that it was read
from. -/
inductive Content where
  | bytes (data : ByteArray)
  | parsed (tree : Node)
  deriving Inhabited

namespace Content

/-- The bytes of a file. A file kept as a tree has none. -/
def data : Content → ByteArray
  | bytes data => data
  | parsed _ => ByteArray.empty

/-- The bytes as text, if they are UTF-8. -/
def text? (c : Content) : Option String := String.fromUTF8? c.data

def ofText (s : String) : Content := bytes s.toUTF8

end Content

/-- One thing in a directory. -/
inductive Entry where
  | file (mode : Mode) (content : Content)
  | link (target : String)
  | directory (mode : Mode) (entries : List (String × Entry))
  deriving Inhabited

namespace Entry

/-- A directory with nothing in it. -/
def emptyDirectory : Entry := directory {} []

/-- The names and entries of a directory; nothing for anything else. -/
def entries : Entry → List (String × Entry)
  | directory _ es => es
  | _ => []

def isDirectory : Entry → Bool
  | directory _ _ => true
  | _ => false

/-- The entry of that name. -/
def child? (e : Entry) (name : String) : Option Entry :=
  (e.entries.find? (·.1 == name)).map (·.2)

/-- The entry below `e` at the end of a list of names. -/
def at? (e : Entry) : List String → Option Entry
  | [] => some e
  | name :: rest => (e.child? name).bind (·.at? rest)

theorem at?_append (e : Entry) (names rest : List String) :
    e.at? (names ++ rest) = (e.at? names).bind (·.at? rest) := by
  induction names generalizing e with
  | nil => rfl
  | cons name names ih =>
    simp only [List.cons_append, at?, Option.bind_assoc]
    exact Option.bind_congr fun c _ => ih c

theorem at?_snoc (e : Entry) (names : List String) (name : String) :
    e.at? (names ++ [name]) = (e.at? names).bind (·.child? name) := by
  rw [at?_append]
  refine Option.bind_congr fun c _ => ?_
  cases h : c.child? name <;> simp [at?, h]

/-- Puts an entry under a name, in place of one of that name or at the end. -/
def putChild (name : String) (new : Entry) : List (String × Entry) → List (String × Entry)
  | [] => [(name, new)]
  | e :: es => if e.1 == name then (name, new) :: es else e :: putChild name new es

/-- Changes the entry at the end of a list of names. Directories on the way are made
where there is nothing, and `change` is given what is there. -/
def alter (change : Option Entry → Entry) : List String → Option Entry → Entry
  | [], e => change e
  | name :: rest, e =>
    let dir := e.getD emptyDirectory
    let new := alter change rest (dir.child? name)
    match dir with
    | directory mode es => directory mode (putChild name new es)
    | _ => directory {} [(name, new)]

/-- The same entry with another mode. Links have none. -/
def withMode (mode : Mode) : Entry → Entry
  | file _ content => file mode content
  | link target => link target
  | directory _ es => directory mode es

end Entry

/-- The current directory, as names from the root. -/
inductive Here where
  | present (place : List String)
  /-- The directory has been removed. The one that it stood in is still known. -/
  | removed (parent : List String)
  deriving DecidableEq, Repr, Inhabited

/-- A whole file tree, and where in it one is. -/
structure Files where
  root : Entry := .emptyDirectory
  here : Here := .present []
  /-- How many bytes the file at a place can take, where there is a limit. -/
  room : List String → Option Nat := fun _ => none
  /-- The characters that stand, in names, for bytes that are no text. -/
  strays : List Char := []
  deriving Inhabited

namespace Files

/-- The text can be written out: no part of it stands for bytes that are no text. -/
def encodes (f : Files) (text : String) : Bool := text.toList.all fun c => !f.strays.contains c

/-- The text of a list of names from the root. -/
def absoluteText (names : List String) : String := "/" ++ String.intercalate "/" names

/-- The text of the current directory. A removed one has none. -/
def hereText (f : Files) : Option String :=
  match f.here with
  | .present place => some (absoluteText place)
  | .removed _ => none

/-- The path seen from the root. A relative path has none when the current directory was
removed. -/
def absolute? (f : Files) (path : String) : Option String :=
  match f.hereText with
  | some here => some (Path.absolute here path)
  | none => if Path.isAbsolute path then some (Path.normalize path) else none

end Files

end SourceAtlas
