-- The architecture graph: components and typed links between them.

namespace SourceAtlas

/-- What a component is. -/
inductive Entity where
  | package
  | struct
  | interface
  | function
  | method
  deriving DecidableEq, Repr, Inhabited

namespace Entity

def word : Entity → String
  | package => "package"
  | struct => "struct"
  | interface => "interface"
  | function => "function"
  | method => "method"

/-- All entities in the order in which people are told about them. -/
def all : List Entity := [package, struct, interface, function, method]

theorem find?_word (e : Entity) : all.find? (fun other => other.word == e.word) = some e := by
  cases e <;> decide

end Entity

/-- What a link says. -/
inductive LinkKind where
  | imports
  | contains
  | calls
  | uses
  | embeds
  deriving DecidableEq, Repr, Inhabited

namespace LinkKind

def word : LinkKind → String
  | imports => "import"
  | contains => "contains"
  | calls => "calls"
  | uses => "uses"
  | embeds => "embeds"

/-- All kinds of links in the order in which people are told about them. -/
def all : List LinkKind := [imports, contains, calls, uses, embeds]

theorem find?_word (k : LinkKind) : all.find? (fun other => other.word == k.word) = some k := by
  cases k <;> decide

end LinkKind

structure Component where
  id : String
  title : String
  entity : Entity
  deriving DecidableEq, Repr, Inhabited

structure Link where
  source : String
  target : String
  kind : LinkKind
  /-- The name that was called, on links that stand for calls. -/
  method : Option String := none
  deriving DecidableEq, Repr, Inhabited

structure Graph where
  components : List Component := []
  links : List Link := []
  deriving DecidableEq, Repr, Inhabited

namespace Graph

/-- The elements of one graph followed by those of another. -/
def append (g h : Graph) : Graph := ⟨g.components ++ h.components, g.links ++ h.links⟩

instance : Append Graph := ⟨append⟩

end Graph

end SourceAtlas
