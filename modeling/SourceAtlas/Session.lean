-- A session works on tables of symbols and on a graph that is being gathered, one
-- action after the other. Both live through the whole session.
import SourceAtlas.Graph.Build

namespace SourceAtlas

structure Session where
  symbols : Symbols
  gathered : Graph := {}
  deriving Inhabited

/-- What can be asked of a session. -/
inductive Action where
  | packagePath (dir : String)
  | ensurePackage (path name directory : String)
  | addImport (package path : String)
  | addType (decl : TypeDecl)
  | addFunction (decl : FunctionDecl)
  | addMethod (decl : MethodDecl)
  | hasType (package name : String)
  | resolve (call : CallSite) (package : String)
  | run (pass : Pass)
  /-- All passes on top of what has been gathered. -/
  | build
  /-- All passes on their own. -/
  | buildFresh
  | tables
  deriving Inhabited

/-- What a session answers. -/
inductive Answer where
  | text (s : String)
  | package (p : Package)
  | texts (ss : List String)
  | flag (b : Bool)
  | key (k : Option Key)
  | graph (g : Graph)
  | tables (s : Symbols)
  deriving Inhabited

namespace Session

def ids {α : Type} (t : Table Key α) : List String := t.keys.map Key.id

/-- One action: what it leaves behind and what it answers. An import for a package that
is not there is refused. -/
def act (s : Session) : Action → Option (Session × Answer)
  | .packagePath dir => some (s, .text (s.symbols.packagePath dir))
  | .ensurePackage path name directory =>
    let symbols := s.symbols.ensurePackage path name directory
    (symbols.packages.get? (.package path)).map fun p => ({ s with symbols }, .package p)
  | .addImport package path =>
    let symbols := s.symbols.addImports package [path]
    (symbols.packages.get? (.package package)).map fun p => ({ s with symbols }, .texts p.imports)
  | .addType decl =>
    let symbols := s.symbols.addType decl
    some ({ s with symbols }, .texts (ids symbols.types))
  | .addFunction decl =>
    let symbols := s.symbols.addFunction decl
    some ({ s with symbols }, .texts (ids symbols.functions))
  | .addMethod decl =>
    let symbols := s.symbols.addMethod decl
    some ({ s with symbols }, .texts (ids symbols.methods))
  | .hasType package name => some (s, .flag (s.symbols.hasType package name))
  | .resolve call package => some (s, .key (s.symbols.resolveCall package call))
  | .run pass =>
    some ({ s with gathered := pass.run s.symbols s.gathered }, .graph (pass.output s.symbols))
  | .build =>
    let gathered := s.symbols.buildOn s.gathered
    some ({ s with gathered }, .graph gathered)
  | .buildFresh => some (s, .graph s.symbols.graph)
  | .tables => some (s, .tables s.symbols)

end Session

end SourceAtlas
