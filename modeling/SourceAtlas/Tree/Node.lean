-- Syntax trees as every reader of them sees them: a node has a kind, perhaps a
-- field name in its parent, perhaps a text, a start and children. Nothing here
-- knows a language; the kinds are plain names.

namespace SourceAtlas

/-- A place in a text: row and column, both counted from zero. -/
structure Position where
  row : Nat := 0
  column : Nat := 0
  deriving DecidableEq, Repr, Inhabited

/-- The line number that people count, from one. -/
def Position.line (p : Position) : Int := p.row + 1

/-- All that a node says about itself, its children apart. -/
structure Label where
  kind : String
  /-- Punctuation and keywords are nodes without a name of their own. -/
  named : Bool := true
  /-- The role of the node in its parent. -/
  field : Option String := none
  text : Option String := none
  /-- The source has bytes there that are no text. Whoever asks for the text is refused. -/
  garbled : Bool := false
  start : Position := {}
  /-- The node stands for something that the source left out. -/
  missing : Bool := false
  /-- An error inside was reported without a node that shows it. -/
  faulty : Bool := false
  deriving DecidableEq, Repr, Inhabited

/-- A syntax tree. -/
inductive Node where
  | mk (label : Label) (children : List Node)
  deriving Inhabited

namespace Node

def label : Node → Label
  | mk l _ => l

def children : Node → List Node
  | mk _ cs => cs

def kind (n : Node) : String := n.label.kind

def start (n : Node) : Position := n.label.start

/-- The line on which the node starts. -/
def line (n : Node) : Int := n.start.line

/-- The text of a node; a node without one reads as the empty text. -/
def text (n : Node) : String := n.label.text.getD ""

/-- The text of a node that may be absent. -/
def textOf : Option Node → String
  | some n => n.text
  | none => ""

/-- The kind of comment nodes, which every reader of declarations skips. -/
def commentKind : String := "comment"

/-- The named children that are not comments. -/
def parts (n : Node) : List Node :=
  n.children.filter fun c => c.label.named && c.kind != commentKind

/-- The first child with the given role. -/
def child? (n : Node) (field : String) : Option Node :=
  n.children.find? fun c => c.label.field == some field

/-- All children with the given role, named or not. -/
def childrenAt (n : Node) (field : String) : List Node :=
  n.children.filter fun c => c.label.field == some field

/-- The same node in another role. -/
def withField (field : String) : Node → Node
  | mk l cs => mk { l with field := some field } cs

mutual
/-- The node and all nodes below it, parents before children, from left to right. -/
def preorder : Node → List Node
  | mk l cs => mk l cs :: preorderAll cs
termination_by structural n => n

/-- The nodes of several trees, tree by tree. -/
def preorderAll : List Node → List Node
  | [] => []
  | c :: cs => c.preorder ++ preorderAll cs
termination_by structural ns => ns
end

mutual
/-- How many nodes a tree has. -/
def count : Node → Nat
  | mk _ cs => countAll cs + 1
termination_by structural n => n

/-- How many nodes several trees have together. -/
def countAll : List Node → Nat
  | [] => 0
  | c :: cs => c.count + countAll cs
termination_by structural ns => ns
end

theorem count_pos (n : Node) : 0 < n.count := by
  cases n; simp [count]

theorem countAll_append (as bs : List Node) : countAll (as ++ bs) = countAll as + countAll bs := by
  induction as with
  | nil => simp [countAll]
  | cons a as ih => simp [countAll, ih, Nat.add_assoc]

end Node

end SourceAtlas
