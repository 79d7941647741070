-- Calls in a syntax tree: which call expressions are kept, and all calls of a
-- body in source order.
import SourceAtlas.Tree.Node

namespace SourceAtlas

/-- One kept call: a plain call `target(...)`, or a selector call
`receiver.target(...)`. -/
structure CallSite where
  target : String
  isSelector : Bool := false
  receiver : String := ""
  line : Int
  deriving DecidableEq, Repr, Inhabited

namespace CallSite

/-- Functions of the language itself. Calls of them are not kept. -/
def builtins : List String :=
  ["make", "new", "len", "cap", "append", "copy", "delete", "close",
   "panic", "recover", "print", "println", "complex", "real", "imag"]

/-- The name belongs to a function of the language itself. -/
def isBuiltin (name : String) : Bool := builtins.contains name

end CallSite

namespace Node

def callKind : String := "call_expression"

/-- The call site of a call expression. A bare name that is not built in gives a
plain call, a name selected from a bare name gives a selector call, and every other
callee gives none. -/
def callSite? (call : Node) : Option CallSite :=
  match call.child? "function" with
  | none => none
  | some callee =>
    if callee.kind == "identifier" then
      if CallSite.isBuiltin callee.text then none
      else some { target := callee.text, line := call.line }
    else if callee.kind == "selector_expression" then
      match callee.child? "operand" with
      | some operand =>
        if operand.kind == "identifier" then
          some
            { target := textOf (callee.child? "field")
              isSelector := true
              receiver := operand.text
              line := call.line }
        else none
      | none => none
    else none

/-- The call site that a node of any kind contributes. -/
def ownCall? (n : Node) : Option CallSite :=
  if n.kind == callKind then n.callSite? else none

/-- Visits the nodes of a stack: the top node first, then its children, then the rest
of the stack. Calls are kept in the order in which they are met. -/
def callsOfStack : List Node → List CallSite
  | [] => []
  | n :: rest =>
    let found := callsOfStack (n.children ++ rest)
    match n.ownCall? with
    | some site => site :: found
    | none => found
termination_by stack => countAll stack
decreasing_by
  cases n
  simp only [Node.children, countAll_append, countAll, count]
  omega

/-- The calls of a body in source order. Function literals are entered like any other
part of the body. -/
def calls : Option Node → List CallSite
  | some body => callsOfStack [body]
  | none => []

end Node

end SourceAtlas
