-- A whole analysis: from a directory to its graph. Nothing is left half done: either
-- every source file is taken in, or the first failure is all that comes out.
import SourceAtlas.Analysis.ModulePath
import SourceAtlas.Analysis.Sources
import SourceAtlas.Graph.Build
import SourceAtlas.Symbol.Asked

namespace SourceAtlas

namespace Symbols

/-- The types of a file that leave no symbol, for the log. -/
def skippedTypes (package : String) (file : SourceFile) : List Event :=
  (file.tree.allDeclarations package file.path).filterMap fun
    | .plainType package name => some (.typeSkipped package name)
    | _ => none

/-- Enters a file that has been read. The way to it from the base has to be known, and what is
asked of it has to be text. -/
def take (s : Symbols) (f : Files) (file : SourceFile) : Traced Symbols :=
  match f.absolute? s.base, f.absolute? (Path.directory file.path) with
  | some _, some _ =>
    if !file.tree.isReadable then .fail .undecodable
    else do
      let here := f.hereText.getD "/"
      Traced.noteAll (skippedTypes (s.packageOf here file.path) file)
      return s.addFile here file
  | _, _ => .fail (.fault ⟨.notFound, none⟩)

end Symbols

namespace Analysis

/-- Reads one source file and enters it. -/
def addSource (f : Files) (settings : Settings) (ready : Bool) (s : Symbols) (path : String) :
    Traced Symbols := do
  Traced.note (.parsing path)
  let tree ← Source.read f settings.language ready path
  s.take f ⟨path, tree⟩

/-- Enters source files one after the other. After the first the parser is ready. -/
def addSources (f : Files) (settings : Settings) : (ready : Bool) → Symbols → List String →
    Traced Symbols
  | _, s, [] => .pure s
  | ready, s, path :: paths => do
    let s ← addSource f settings ready s path
    addSources f settings true s paths

/-- The source files below `root`. -/
def walk (f : Files) (settings : Settings) (root : String) : Except AnalysisError (List String) :=
  if !f.isDirectory root then .error (.unwalkable root (.noDirectory root))
  else
    match f.sources settings root with
    | .ok paths => .ok paths
    | .error fault => .error (.unwalkable (fault.path.getD root) (.fault fault))

/-- The symbols of all source files below `root`. -/
def collect (f : Files) (settings : Settings) (ready : Bool) (root : String) :
    Traced Symbols := do
  let modulePath ← ModulePath.detect f root settings
  match walk f settings root with
  | .error e => .refuse e
  | .ok paths =>
    let s ← addSources f settings ready { base := root, modulePath } paths
    Traced.note (.collected s.packages.size s.types.size s.functions.size s.methods.size)
    return s

/-- The settings that count: the given ones, or those that the tree keeps; a language
that is asked for takes the place of theirs. -/
def settingsFor (f : Files) (root : String) (language : Option String)
    (given : Option Settings) : Traced Settings := do
  let settings ←
    match given with
    | some settings => Traced.pure settings
    | none => Configuration.load f root
  match language with
  | some language => return { settings with language }
  | none => return settings

/-- The graph of the tree at `root`, which is seen from the root of the file tree. -/
def graphAt (f : Files) (ready : Bool) (root : String) (settings : Settings) : Traced Graph :=
  if !languages.contains settings.language then .refuse (.unsupported settings.language)
  else do
    let s ← collect f settings ready root
    let g := s.graph
    Traced.note (.built g.components.length g.links.length)
    return g

/-- The graph of the tree at `path`. -/
def run (f : Files) (ready : Bool) (path : String) (language : Option String)
    (given : Option Settings) : Traced Graph :=
  match f.absolute? path with
  | none => .refuse (.unresolvedPath path ⟨.notFound, none⟩)
  | some root => do
    let settings ← settingsFor f root language given
    graphAt f ready root settings

end Analysis

end SourceAtlas
