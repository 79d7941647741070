-- Where a tree is broken. A node is broken when it is an error node or stands
-- for something missing; a tree is broken when it holds a broken node or says
-- of itself that it does.
import SourceAtlas.Tree.Node

namespace SourceAtlas

namespace Node

/-- The kind of the nodes that cover what could not be read. -/
def errorKind : String := "ERROR"

/-- The node itself shows an error. -/
def broken (n : Node) : Bool := n.kind == errorKind || n.label.missing

mutual
/-- The node shows an error, reports one, or has one below it. -/
def hasFault : Node → Bool
  | mk l cs => (mk l cs).broken || l.faulty || anyFault cs
termination_by structural n => n

/-- Some tree of the list has an error. -/
def anyFault : List Node → Bool
  | [] => false
  | c :: cs => c.hasFault || anyFault cs
termination_by structural ns => ns
end

mutual
/-- The first broken node in pre-order. Children without a fault are not entered. -/
def firstBroken? : Node → Option Node
  | mk l cs => if (mk l cs).broken then some (mk l cs) else firstBrokenOf? cs
termination_by structural n => n

/-- The first broken node among several trees. -/
def firstBrokenOf? : List Node → Option Node
  | [] => none
  | c :: cs =>
    if c.hasFault then
      match c.firstBroken? with
      | some b => some b
      | none => firstBrokenOf? cs
    else firstBrokenOf? cs
termination_by structural ns => ns
end

/-- Where a faulty tree is reported: at its first broken node, or at its own start
when no node of it shows the error. -/
def faultPosition (n : Node) : Position := (n.firstBroken?.getD n).start

end Node

end SourceAtlas
