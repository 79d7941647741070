-- What an analysis can be told about the tree that it reads, and settings that the tree
-- keeps itself. Two files may hold them; the first that says anything decides alone.
import SourceAtlas.Analysis.Traced
import SourceAtlas.Format.Toml

namespace SourceAtlas

structure Settings where
  language : String := "go"
  excludedDirs : List String := ["vendor", "node_modules", ".git", "bin"]
  sourceSuffix : String := ".go"
  testSuffix : String := "_test.go"
  moduleDescriptor : String := "go.mod"
  deriving DecidableEq, Repr, Inhabited

namespace Settings

/-- The names under which the settings stand in a table, in their order. -/
def fieldNames : List String :=
  ["language", "excluded_dirs", "source_suffix", "test_suffix", "module_descriptor"]

/-- The settings that a table gives. What it leaves out has its default, and a name that
is no setting is refused. -/
def ofFields (fields : List (String × Value)) : Checked Settings :=
  let standard : Settings := {}
  (fun s _ => s) <$>
    (Settings.mk <$> Check.optional fields "language" standard.language Check.string
      <*> Check.optional fields "excluded_dirs" standard.excludedDirs (Check.list Check.string)
      <*> Check.optional fields "source_suffix" standard.sourceSuffix Check.string
      <*> Check.optional fields "test_suffix" standard.testSuffix Check.string
      <*> Check.optional fields "module_descriptor" standard.moduleDescriptor Check.string)
    <*> Check.onlyKnown fields fieldNames

/-- The file name is that of a source file, and not of a test. -/
def isSource (s : Settings) (name : String) : Bool :=
  Text.endsWith name s.sourceSuffix && !Text.endsWith name s.testSuffix

/-- A directory of that name is left out. -/
def excludes (s : Settings) (name : String) : Bool := s.excludedDirs.contains name

end Settings

namespace Configuration

/-- A file that may hold settings, and the keys that lead to them. -/
structure Place where
  name : String
  keys : List String
  deriving DecidableEq, Repr, Inhabited

/-- The places, in the order in which they are looked at. -/
def places : List Place :=
  [⟨".archgraph.toml", ["archgraph"]⟩, ⟨"pyproject.toml", ["tool", "archgraph"]⟩]

/-- Follows the keys into a table. A key that is not there leads to an empty table; one
that holds anything but a table is told. -/
def descend (fields : List (String × Value)) : List String → Except SettingsFlaw (List (String × Value))
  | [] => .ok fields
  | key :: keys =>
    match Value.lookup fields key with
    | none => descend [] keys
    | some (.table inner) => descend inner keys
    | some _ => .error (.notTable key)

/-- What a settings file says. -/
inductive Reading where
  /-- The file decides nothing, for the reason that the log gives. -/
  | silent (skipped : Option Event)
  | refused (flaw : SettingsFlaw)
  | settled (s : Settings)

/-- What the table of a document says. An empty one decides nothing. -/
def ofDocument (keys : List String) (document : List (String × Value)) : Reading :=
  match descend document keys with
  | .error flaw => .refused flaw
  | .ok [] => .silent none
  | .ok fields =>
    match Settings.ofFields fields with
    | .ok s => .settled s
    | .bad issues => .refused (.issues issues)

/-- What the text of a file says. -/
def ofText (file : String) (keys : List String) (text : String) : Except Failure Reading :=
  match Toml.read text with
  | .error .malformed => .ok (.silent (some (.settingsSkipped file none)))
  | .error .oversized => .error .oversizedNumber
  | .ok document => .ok (ofDocument keys document)

/-- Reads one place. Bytes that are no text, numbers that are too long and paths that
cannot be asked for stop the work. -/
def readPlace (f : Files) (file : String) (keys : List String) : Except Failure Reading :=
  match f.isFile file with
  | .error fault => .error (.fault fault)
  | .ok false => .ok (.silent none)
  | .ok true =>
    match f.read file with
    | .error fault => .ok (.silent (some (.settingsSkipped file (some fault))))
    | .ok content =>
      match content.text? with
      | none => .error .undecodable
      | some text => ofText file keys text

/-- What a reading of the file leads to: the end of the search, or the places that are left. -/
def settle (file : String) (left : Traced Settings) : Except Failure Reading → Traced Settings
  | .error failure => .fail failure
  | .ok (.silent skipped) => do
    Traced.noteAll skipped.toList
    left
  | .ok (.refused flaw) => .refuse (.badSettings file flaw)
  | .ok (.settled s) => do
    Traced.note (.settingsLoaded file)
    return s

/-- The file at a place. -/
def Place.file (root : String) (p : Place) : String := Path.tidy (Path.join root p.name)

/-- Looks at the places one after the other. -/
def search (f : Files) (root : String) : List Place → Traced Settings
  | [] => .pure {}
  | place :: rest =>
    settle (place.file root) (search f root rest) (readPlace f (place.file root) place.keys)

/-- The settings for the tree at `root`. -/
def load (f : Files) (root : String) : Traced Settings := search f root places

end Configuration

end SourceAtlas
