-- From tables of symbols to the graph. Each pass reads the tables alone, so the
-- order of the passes is the order of the result and nothing more.
import SourceAtlas.Graph.Basic
import SourceAtlas.Symbol.Tables
import SourceAtlas.Text.Basic
import SourceAtlas.Tree.TypeName

namespace SourceAtlas

def TypeKind.entity : TypeKind → Entity
  | record => .struct
  | interface => .interface

namespace Symbols

/-- One component for each package, type, function and method. -/
def components (s : Symbols) : List Component :=
  s.packages.entries.map (fun (key, p) => ⟨key.id, p.name, .package⟩)
    ++ s.types.entries.map (fun (key, t) => ⟨key.id, t.name, t.kind.entity⟩)
    ++ s.functions.entries.map (fun (key, f) => ⟨key.id, f.name, .function⟩)
    ++ s.methods.entries.map (fun (key, m) => ⟨key.id, m.name, .method⟩)

/-- A link from a package to each of its imports that begins with the module path. The
imported package need not be known. -/
def importLinks (s : Symbols) : List Link :=
  s.packages.entries.flatMap fun (key, p) =>
    (p.imports.filter (Text.startsWith · s.modulePath)).map fun path =>
      { source := key.id, target := path, kind := .imports }

/-- A link from each package to its types and functions, and from each known type to its
methods. -/
def containsLinks (s : Symbols) : List Link :=
  let link (owner key : Key) : Link := { source := owner.id, target := key.id, kind := .contains }
  s.types.entries.map (fun (key, t) => link (.package t.package) key)
    ++ s.functions.entries.map (fun (key, f) => link (.package f.package) key)
    ++ s.methods.entries.filterMap fun (key, m) =>
      if s.hasType m.package m.receiver then some (link (.type m.package m.receiver) key) else none

/-- Everything that can call: functions, then methods. -/
def callers (s : Symbols) : List (Key × FunctionDecl) :=
  s.functions.entries ++ s.methods.entries.map fun (key, m) => (key, m.toFunctionDecl)

/-- A link for each call that names a function of the caller's package. -/
def callLinks (s : Symbols) : List Link :=
  s.callers.flatMap fun (key, caller) =>
    caller.calls.filterMap fun call =>
      (s.resolveCall caller.package call).map fun target =>
        { source := key.id, target := target.id, kind := .calls, method := some call.target }

/-- The type of the package that a name stands for. Names of the language itself stand
for none. -/
def declaredType? (s : Symbols) (package name : String) : Option Key :=
  if !TypeName.isPrimitive name && s.hasType package name then some (.type package name) else none

/-- Links from each type to the types of its package that it embeds or has fields of. -/
def typeLinks (s : Symbols) : List Link :=
  s.types.entries.flatMap fun (key, t) =>
    (t.embeds.filterMap fun name =>
      (s.declaredType? t.package name).map fun target =>
        { source := key.id, target := target.id, kind := .embeds })
      ++ (t.fields.filterMap fun field =>
        if field.typePackage = t.package then
          (s.declaredType? t.package field.typeName).map fun target =>
            { source := key.id, target := target.id, kind := .uses }
        else none)

end Symbols

/-- One pass over the tables. -/
inductive Pass where
  | components
  | importLinks
  | containsLinks
  | callLinks
  | typeLinks
  deriving DecidableEq, Repr, Inhabited

namespace Pass

/-- All passes in the order of a full run. -/
def all : List Pass := [components, importLinks, containsLinks, callLinks, typeLinks]

/-- What a pass finds in the tables. -/
def output (s : Symbols) : Pass → Graph
  | components => { components := s.components }
  | importLinks => { links := s.importLinks }
  | containsLinks => { links := s.containsLinks }
  | callLinks => { links := s.callLinks }
  | typeLinks => { links := s.typeLinks }

/-- Runs a pass and adds what it finds to what has been gathered. -/
def run (s : Symbols) (gathered : Graph) (p : Pass) : Graph := gathered ++ p.output s

end Pass

namespace Symbols

/-- Runs all passes on top of what has been gathered. -/
def buildOn (s : Symbols) (gathered : Graph) : Graph := Pass.all.foldl (Pass.run s) gathered

/-- The graph of the tables. -/
def graph (s : Symbols) : Graph := s.buildOn {}

end Symbols

end SourceAtlas
