-- Graphs as plain values: the shape that every written form of a graph has, and the
-- way back. A graph is also written to a file, whose name chooses the form.
import SourceAtlas.Files.Lookup
import SourceAtlas.Format.Json
import SourceAtlas.Format.Yaml
import SourceAtlas.Graph.Basic

namespace SourceAtlas

namespace Component

def document (c : Component) : Value :=
  .table [("id", .string c.id), ("title", .string c.title), ("entity", .string c.entity.word)]

def check : Check Component :=
  Check.record "Node" fun fields =>
    Component.mk <$> Check.required fields "id" Check.string
      <*> Check.required fields "title" Check.string
      <*> Check.required fields "entity" (Check.choice Entity.word Entity.all)

end Component

namespace Link

/-- A link without a called name has no such field. -/
def document (l : Link) : Value :=
  .table
    ([("from", .string l.source), ("to", .string l.target), ("type", .string l.kind.word)]
      ++ match l.method with
        | some m => [("method", .string m)]
        | none => [])

/-- The source of a link may also stand under a second name, which counts when the first
is not there. -/
def sourceField (fields : List (String × Value)) : Checked String :=
  match Value.lookup fields "from", Value.lookup fields "from_" with
  | none, some v => (Check.string v).under (.field "from")
  | _, _ => Check.required fields "from" Check.string

def check : Check Link :=
  Check.record "Edge" fun fields =>
    Link.mk <$> sourceField fields
      <*> Check.required fields "to" Check.string
      <*> Check.required fields "type" (Check.choice LinkKind.word LinkKind.all)
      <*> Check.optional fields "method" none Check.nullableString

end Link

/-- The forms in which a graph can be written. -/
inductive GraphForm where
  | json
  | yaml
  deriving DecidableEq, Repr, Inhabited

/-- JSON for files that are called so, in letters of any case, and YAML for all others. -/
def GraphForm.ofPath (path : String) : GraphForm :=
  if (Path.suffix path).toList.map Char.toLower = ".json".toList then .json else .yaml

namespace Graph

/-- The graph as a plain value. -/
def document (g : Graph) : Value :=
  .table
    [("components", .list (g.components.map Component.document)),
     ("links", .list (g.links.map Link.document))]

/-- Reads a graph back from a plain value. -/
def check : Check Graph :=
  Check.record "Graph" fun fields =>
    Graph.mk <$> Check.optional fields "components" [] (Check.list Component.check)
      <*> Check.optional fields "links" [] (Check.list Link.check)

/-- The graph as JSON text. -/
def toJson (g : Graph) : String := Json.write g.document

/-- The text of a graph in the given form. -/
def render (g : Graph) : GraphForm → String
  | .json => g.toJson
  | .yaml => Yaml.write g

/-- Writes the graph to a file. -/
def save (g : Graph) (f : Files) (path : String) : Files.Writing :=
  f.write path (g.render (.ofPath path))

end Graph

end SourceAtlas
