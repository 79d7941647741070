-- The walk over a body. The stack meets the nodes parents first and from left to right,
-- so the calls that it keeps are those of the whole tree in that order.
import SourceAtlas.Tree.Call

namespace SourceAtlas.Node

/-! ## The stack and the tree -/

theorem preorder_eq (n : Node) : n.preorder = n :: preorderAll n.children := by
  cases n with
  | mk l cs => simp [preorder, children]

theorem preorderAll_append (as bs : List Node) :
    preorderAll (as ++ bs) = preorderAll as ++ preorderAll bs := by
  induction as with
  | nil => simp [preorderAll]
  | cons a as ih => simp [preorderAll, ih]

/-- A stack stands for the nodes of its trees, the top tree first. -/
theorem callsOfStack_eq (stack : List Node) :
    callsOfStack stack = (preorderAll stack).filterMap ownCall? := by
  fun_induction callsOfStack stack with
  | case1 => simp [preorderAll]
  | case2 n rest found site hsite ih =>
    simp only [preorderAll, preorder_eq, List.cons_append, List.filterMap_cons, hsite]
    rw [← preorderAll_append, ← ih]
  | case3 n rest found hsite ih =>
    simp only [preorderAll, preorder_eq, List.cons_append, List.filterMap_cons, hsite]
    rw [← preorderAll_append, ← ih]

/-- The nodes of a body that may be absent, parents before children, from left to right. -/
def nodesOf : Option Node → List Node
  | some body => body.preorder
  | none => []

theorem calls_eq (body : Option Node) : calls body = (nodesOf body).filterMap ownCall? := by
  cases body with
  | none => rfl
  | some body =>
    change callsOfStack [body] = body.preorder.filterMap ownCall?
    rw [callsOfStack_eq]
    simp [preorderAll]

/-! ## Plain calls -/

/-- The name that a node calls plainly: the node is a call expression, and its callee is a
bare name that is not built in. -/
def plainCallee? (n : Node) : Option String :=
  if n.kind = "call_expression" then
    (n.child? "function").bind fun callee =>
      if callee.kind = "identifier" ∧ callee.text ∉ CallSite.builtins then some callee.text
      else none
  else none

theorem plainCallee?_eq_some_iff {n : Node} {name : String} :
    n.plainCallee? = some name ↔
      n.kind = "call_expression" ∧ ∃ callee, n.child? "function" = some callee ∧
        callee.kind = "identifier" ∧ callee.text = name ∧ name ∉ CallSite.builtins := by
  unfold plainCallee?
  constructor
  · intro h
    split at h
    · rename_i hkind
      obtain ⟨callee, hcallee, hname⟩ := Option.bind_eq_some_iff.mp h
      split at hname
      · rename_i hplain
        cases hname
        exact ⟨hkind, callee, hcallee, hplain.1, rfl, hplain.2⟩
      · cases hname
    · cases h
  · rintro ⟨hkind, callee, hcallee, hident, rfl, hbuiltin⟩
    rw [if_pos hkind, hcallee, Option.bind_some, if_pos ⟨hident, hbuiltin⟩]

/-- A call that is kept and is no selector call is a plain call. -/
theorem plain_ownCall? (n : Node) :
    n.ownCall?.bind (fun call => if call.isSelector then none else some call.target) =
      n.plainCallee? := by
  unfold ownCall? plainCallee? callSite? callKind
  by_cases hkind : n.kind = "call_expression"
  · cases hcallee : n.child? "function" with
    | none => simp [hkind]
    | some callee =>
      by_cases hident : callee.kind = "identifier"
      · by_cases hbuiltin : callee.text ∈ CallSite.builtins
        · simp [hkind, hident, hbuiltin, CallSite.isBuiltin]
        · simp [hkind, hident, hbuiltin, CallSite.isBuiltin]
      · by_cases hselector : callee.kind = "selector_expression"
        · cases hoperand : callee.child? "operand" with
          | none => simp [hkind, hselector, hoperand]
          | some operand =>
            by_cases hbare : operand.kind = "identifier"
            · simp [hkind, hselector, hoperand, hbare]
            · simp [hkind, hselector, hoperand, hbare]
        · simp [hkind, hident, hselector]
  · simp [hkind]

end SourceAtlas.Node
