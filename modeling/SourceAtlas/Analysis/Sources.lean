-- The source files below a directory, and reading one of them into its syntax tree. A
-- directory's own files come before those of its sub-directories, and names are in the order of
-- their code points.
import SourceAtlas.Analysis.Configuration
import SourceAtlas.Grammar.SourceText

namespace SourceAtlas

/-! ## Finding source files -/

namespace Files

/-- Pairs in the order of their names. -/
def byName {α : Type} (es : List (String × α)) : List (String × α) :=
  es.mergeSort fun a b => a.1 ≤ b.1

/-- The entry, which is called `path`, counts as a directory. A link counts as what the path leads
to, and as no directory when that cannot be found. -/
def countsAsDirectory (f : Files) (path : String) : Entry → Bool
  | .directory _ _ => true
  | .file _ _ => false
  | .link _ => f.isDirectory path

/-- The names in the directory called `path` that are those of source files, in order. -/
def sourceNames (f : Files) (settings : Settings) (path : String) (es : List (String × Entry)) :
    List String :=
  ((byName es).filter fun (name, e) =>
    !f.countsAsDirectory (Path.join path name) e && settings.isSource name).map (·.1)

/-- All results one after the other, or the first fault. -/
def chain {α : Type} : List (Except Fault (List α)) → Except Fault (List α)
  | [] => .ok []
  | .error fault :: _ => .error fault
  | .ok found :: rest => (chain rest).map (found ++ ·)

mutual
/-- The source files in and below an entry, which is called `path`. A directory is listed under
that name, so the whole way to it counts. Links are not entered. -/
def sourcesBelow (f : Files) (settings : Settings) (path : String) :
    Entry → Except Fault (List String)
  | .file _ _ => .ok []
  | .link _ => .ok []
  | .directory _ es =>
    match f.list path with
    | .error fault => .error fault
    | .ok _ =>
      let own := (f.sourceNames settings path es).map (Path.join path)
      let below := (byName (sourcesOfEntries f settings path es)).map (·.2)
      (chain below).map (own ++ ·)
termination_by structural e => e

/-- The source files below each real sub-directory that is not left out. -/
def sourcesOfEntries (f : Files) (settings : Settings) (path : String) :
    List (String × Entry) → List (String × Except Fault (List String))
  | [] => []
  | (name, e) :: es =>
    let rest := sourcesOfEntries f settings path es
    if e.isDirectory && !settings.excludes name then
      (name, sourcesBelow f settings (Path.join path name) e) :: rest
    else rest
termination_by structural es => es
end

/-- The source files below the directory that a path leads to. The path itself may lead
through links. -/
def sources (f : Files) (settings : Settings) (path : String) : Except Fault (List String) :=
  match f.find path with
  | .error cause => .error ⟨cause, path⟩
  | .ok (_, e) => f.sourcesBelow settings path e

end Files

/-! ## Reading a source file -/

/-- The languages whose sources can be read. -/
def languages : List String := ["go"]

/-- The tree of what a file holds. -/
def Content.tree : Content → Node
  | .bytes data => Grammar.parseBytes data
  | .parsed tree => tree

namespace Source

/-- A tree without errors, or the position of its first error. -/
def sound (path : String) (tree : Node) : Except AnalysisError Node :=
  if tree.hasFault then .error (.badSource path (.brokenAt tree.faultPosition)) else .ok tree

/-- The tree of the file at `path`. The file is opened before the language is looked at.
Unless the parser is `ready`, the log tells that it was made so. -/
def read (f : Files) (language : String) (ready : Bool) (path : String) : Traced Node :=
  match f.read path with
  | .error fault =>
    if fault.cause = .embeddedNul then .fail (.fault fault)
    else .refuse (.badSource path (.unreadable fault))
  | .ok content =>
    if !languages.contains language then .refuse (.unsupported language)
    else do
      Traced.noteAll (if ready then [] else [.parserReady language])
      match sound path content.tree with
      | .error e => .refuse e
      | .ok tree => return tree

end Source

end SourceAtlas
