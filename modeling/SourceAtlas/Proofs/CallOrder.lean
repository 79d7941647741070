-- The order in which the calls of a body are kept. The walk with a stack comes to an end, it
-- visits every node of the body once, parents before children and from left to right, and
-- where the nodes stand in the order of the source, so do the calls.
import Mathlib.Data.List.Chain
import SourceAtlas.Proofs.CallWalk
import SourceAtlas.Tree.TypeName

namespace SourceAtlas

/-! ## The walk turn by turn -/

/-- A walk on its way: the nodes on its stack, the one to be visited next at the end, and the
calls that it has kept. -/
structure CallWalk where
  stack : List Node
  kept : List CallSite := []
  deriving Inhabited

namespace CallWalk

/-- A walk over a body before its first turn. -/
def start (body : Node) : CallWalk := { stack := [body] }

/-- The node to be visited next. Without one the walk is over. -/
def next? (w : CallWalk) : Option Node := w.stack.getLast?

/-- One turn: the node at the end leaves the stack, its call is kept, and its children come
onto the stack in reverse. -/
def turn (w : CallWalk) : CallWalk :=
  match w.next? with
  | none => w
  | some n =>
    { stack := w.stack.dropLast ++ n.children.reverse
      kept := w.kept ++ n.ownCall?.toList }

/-- The walk after a number of turns. -/
def after (w : CallWalk) : Nat → CallWalk
  | 0 => w
  | k + 1 => w.turn.after k

/-- The nodes that a walk has still to visit, in its order. -/
def ahead (w : CallWalk) : List Node := Node.preorderAll w.stack.reverse

theorem next?_eq (w : CallWalk) : w.next? = w.ahead.head? := by
  unfold next? ahead
  rw [List.getLast?_eq_head?_reverse]
  cases w.stack.reverse with
  | nil => rfl
  | cons n rest => rw [Node.preorderAll, Node.preorder_eq]; rfl

/-- A turn visits the first node that is ahead, and leaves the others in their order. -/
theorem turn_spec (w : CallWalk) :
    w.turn.ahead = w.ahead.tail ∧
      w.turn.kept = w.kept ++ (w.ahead.take 1).filterMap Node.ownCall? := by
  unfold turn
  cases hnext : w.next? with
  | none =>
    have hahead : w.ahead = [] := by rwa [next?_eq, List.head?_eq_none_iff] at hnext
    simp [hahead]
  | some n =>
    obtain ⟨rest, hstack⟩ := List.getLast?_eq_some_iff.mp hnext
    have hahead : w.ahead = n :: Node.preorderAll (n.children ++ rest.reverse) := by
      unfold ahead
      rw [hstack, List.reverse_append, List.reverse_singleton, List.singleton_append,
        Node.preorderAll, Node.preorder_eq, Node.preorderAll_append, List.cons_append]
    constructor
    · rw [hahead, List.tail_cons]
      unfold ahead
      simp [hstack]
    · rw [hahead]
      cases hcall : n.ownCall? <;> simp [hcall]

theorem after_spec (w : CallWalk) (k : Nat) :
    (w.after k).ahead = w.ahead.drop k ∧
      (w.after k).kept = w.kept ++ (w.ahead.take k).filterMap Node.ownCall? := by
  induction k generalizing w with
  | zero => simp [after]
  | succ k ih =>
    obtain ⟨hahead, hkept⟩ := w.turn_spec
    rw [after, (ih w.turn).1, (ih w.turn).2, hahead, hkept]
    constructor
    · rw [List.drop_tail]
    · rw [List.append_assoc, ← List.filterMap_append]
      cases w.ahead <;> simp

/-- What a walk has kept and what its stack still holds are the same calls after every turn. -/
theorem kept_append_callsOfStack (w : CallWalk) (k : Nat) :
    (w.after k).kept ++ Node.callsOfStack (w.after k).stack.reverse =
      w.kept ++ Node.callsOfStack w.stack.reverse := by
  have hstack : ∀ w : CallWalk,
      Node.callsOfStack w.stack.reverse = w.ahead.filterMap Node.ownCall? :=
    fun w => Node.callsOfStack_eq w.stack.reverse
  obtain ⟨hahead, hkept⟩ := w.after_spec k
  rw [hstack, hstack, hahead, hkept, List.append_assoc, ← List.filterMap_append,
    List.take_append_drop]

theorem ahead_start (body : Node) : (start body).ahead = body.preorder := by
  simp [ahead, start, Node.preorderAll]

theorem stack_eq_nil_of_ahead {w : CallWalk} (h : w.ahead = []) : w.stack = [] := by
  have hnext := w.next?_eq
  rw [h] at hnext
  exact List.getLast?_eq_none_iff.mp hnext

end CallWalk

namespace Node

mutual
theorem length_preorder (n : Node) : n.preorder.length = n.count := by
  cases n with
  | mk l cs => rw [preorder, count, List.length_cons, length_preorderAll cs]

theorem length_preorderAll (ns : List Node) : (preorderAll ns).length = countAll ns := by
  cases ns with
  | nil => rfl
  | cons n ns =>
    rw [preorderAll, countAll, List.length_append, length_preorder n, length_preorderAll ns]
end

end Node

/-! ## The order of the source -/

/-- A place comes no later than another: on an earlier row, or on the same one and not further
to the right. -/
instance : LE Position where
  le p q := p.row < q.row ∨ p.row = q.row ∧ p.column ≤ q.column

instance (p q : Position) : Decidable (p ≤ q) :=
  inferInstanceAs (Decidable (p.row < q.row ∨ p.row = q.row ∧ p.column ≤ q.column))

namespace Position

theorem le_def {p q : Position} :
    p ≤ q ↔ p.row < q.row ∨ p.row = q.row ∧ p.column ≤ q.column := Iff.rfl

theorem le_refl (p : Position) : p ≤ p := by
  rw [le_def]
  omega

theorem le_trans {p q r : Position} (hpq : p ≤ q) (hqr : q ≤ r) : p ≤ r := by
  rw [le_def] at *
  omega

theorem line_le {p q : Position} (h : p ≤ q) : p.line ≤ q.line := by
  rw [le_def] at h
  unfold line
  omega

end Position

namespace Node

/-- The nodes of the tree stand in the order of the source: a node starts no later than its
first child, and all that is in or below a child starts no later than the next child. -/
structure InSourceOrder (tree : Node) : Prop where
  first : ∀ n ∈ tree.preorder, ∀ c ∈ n.children.head?, n.start ≤ c.start
  next : ∀ n ∈ tree.preorder,
    n.children.IsChain fun c c' => ∀ m ∈ c.preorder, m.start ≤ c'.start

theorem mem_preorderAll {ns : List Node} {m : Node} :
    m ∈ preorderAll ns ↔ ∃ n ∈ ns, m ∈ n.preorder := by
  induction ns with
  | nil => simp [preorderAll]
  | cons n ns ih => simp [preorderAll, ih]

theorem mem_preorder_self (n : Node) : n ∈ n.preorder := by
  rw [preorder_eq]
  exact List.mem_cons_self

theorem InSourceOrder.of_child {n c : Node} (h : n.InSourceOrder) (hc : c ∈ n.children) :
    c.InSourceOrder := by
  have hsub : ∀ m ∈ c.preorder, m ∈ n.preorder := by
    intro m hm
    rw [preorder_eq n]
    exact List.mem_cons_of_mem n (mem_preorderAll.mpr ⟨c, hc, hm⟩)
  exact ⟨fun m hm => h.first m (hsub m hm), fun m hm => h.next m (hsub m hm)⟩

/-- What holds of a node when it holds of all its children, holds of every node. -/
theorem child_induction {P : Node → Prop} (step : ∀ n, (∀ c ∈ n.children, P c) → P n)
    (n : Node) : P n :=
  step n fun c _ => child_induction step c
termination_by n.count
decreasing_by exact count_lt_of_mem ‹_›

/-- Where nothing starts before the sibling that it is in, nothing in a row of siblings starts
before the first of them. -/
theorem start_le_of_siblings {c : Node} {cs : List Node}
    (hown : ∀ d ∈ c :: cs, ∀ m ∈ d.preorder, d.start ≤ m.start)
    (hnext : (c :: cs).IsChain fun c c' => ∀ m ∈ c.preorder, m.start ≤ c'.start) :
    ∀ m ∈ preorderAll (c :: cs), c.start ≤ m.start := by
  induction cs generalizing c with
  | nil => simpa [preorderAll] using hown
  | cons d ds ih =>
    obtain ⟨hc, hds⟩ := List.forall_mem_cons.mp hown
    obtain ⟨hcd, hnext⟩ := List.isChain_cons_cons.mp hnext
    intro m hm
    rw [preorderAll, List.mem_append] at hm
    rcases hm with hm | hm
    · exact hc m hm
    · exact Position.le_trans (hcd c (mem_preorder_self c)) (ih hds hnext m hm)

/-- Nothing in a tree starts before its root. -/
theorem InSourceOrder.start_le {n : Node} (h : n.InSourceOrder) :
    ∀ m ∈ n.preorder, n.start ≤ m.start := by
  induction n using child_induction with
  | step n ih =>
    intro m hm
    rw [preorder_eq, List.mem_cons] at hm
    rcases hm with rfl | hm
    · exact Position.le_refl _
    · have hown : ∀ c ∈ n.children, ∀ m ∈ c.preorder, c.start ≤ m.start :=
        fun c hc => ih c hc (h.of_child hc)
      have hfirst := h.first n n.mem_preorder_self
      have hnext := h.next n n.mem_preorder_self
      cases hchildren : n.children with
      | nil =>
        rw [hchildren] at hm
        cases hm
      | cons c cs =>
        rw [hchildren] at hm hown hfirst hnext
        exact Position.le_trans (hfirst c rfl) (start_le_of_siblings hown hnext m hm)

theorem pairwise_of_siblings {cs : List Node} (h : ∀ c ∈ cs, c.InSourceOrder)
    (hown : ∀ c ∈ cs, c.preorder.Pairwise fun a b => a.start ≤ b.start)
    (hnext : cs.IsChain fun c c' => ∀ m ∈ c.preorder, m.start ≤ c'.start) :
    (preorderAll cs).Pairwise fun a b => a.start ≤ b.start := by
  induction cs with
  | nil => exact List.Pairwise.nil
  | cons c cs ih =>
    obtain ⟨hc, hcs⟩ := List.forall_mem_cons.mp hown
    have hlater : ∀ d ∈ cs, d.InSourceOrder := fun d hd => h d (List.mem_cons_of_mem c hd)
    rw [preorderAll]
    refine List.pairwise_append.mpr ⟨hc, ih hlater hcs hnext.tail, ?_⟩
    intro a ha b hb
    -- whatever comes later starts no sooner than the next sibling
    cases cs with
    | nil => cases hb
    | cons d ds =>
      obtain ⟨hcd, hnext⟩ := List.isChain_cons_cons.mp hnext
      exact Position.le_trans (hcd a ha)
        (start_le_of_siblings (fun e he => (hlater e he).start_le) hnext b hb)

/-- The nodes of such a tree start one after the other. -/
theorem InSourceOrder.pairwise_preorder {n : Node} (h : n.InSourceOrder) :
    n.preorder.Pairwise fun a b => a.start ≤ b.start := by
  induction n using child_induction with
  | step n ih =>
    have hstart := h.start_le
    rw [preorder_eq] at hstart ⊢
    refine List.pairwise_cons.mpr ⟨fun m hm => hstart m (List.mem_cons_of_mem n hm), ?_⟩
    exact pairwise_of_siblings (fun c hc => h.of_child hc) (fun c hc => ih c hc (h.of_child hc))
      (h.next n n.mem_preorder_self)

theorem line_of_ownCall? {n : Node} {call : CallSite} (h : n.ownCall? = some call) :
    call.line = n.line := by
  unfold ownCall? callSite? at h
  split at h
  · split at h
    · cases h
    · split at h
      · split at h
        · cases h
        · cases h
          rfl
      · split at h
        · split at h
          · split at h
            · cases h
              rfl
            · cases h
          · cases h
        · cases h
  · cases h

/-! ## The law -/

/-- The walk over a body takes the nodes off its stack in pre-order, each one once, and is over
when it has visited them all. On its way it loses no call and takes none twice. The calls that it
has kept in the end are those of the call expressions of the body in pre-order. In a body whose
nodes stand in the order of the source, no call is on an earlier line than one that was kept before
it. -/
theorem calls_are_kept_in_preorder (body : Node) :
    (∀ k, ((CallWalk.start body).after k).next? = body.preorder[k]? ∧
      ((CallWalk.start body).after k).kept ++
        callsOfStack ((CallWalk.start body).after k).stack.reverse = calls (some body)) ∧
      body.preorder.length = body.count ∧
      (CallWalk.start body).after body.count = { stack := [], kept := calls (some body) } ∧
      calls (some body) =
        (body.preorder.filter (·.kind = "call_expression")).filterMap callSite? ∧
      (body.InSourceOrder → (calls (some body)).Pairwise fun a b => a.line ≤ b.line) := by
  have hcalls : calls (some body) = body.preorder.filterMap ownCall? := calls_eq (some body)
  refine ⟨?_, length_preorder body, ?_, ?_, ?_⟩
  · intro k
    refine ⟨?_, (CallWalk.start body).kept_append_callsOfStack k⟩
    rw [CallWalk.next?_eq, (CallWalk.after_spec _ k).1, CallWalk.ahead_start, List.head?_drop]
  · obtain ⟨hahead, hkept⟩ := (CallWalk.start body).after_spec body.count
    rw [CallWalk.ahead_start, ← length_preorder, List.drop_length] at hahead
    rw [CallWalk.ahead_start, ← length_preorder, List.take_length, ← hcalls] at hkept
    rw [← length_preorder]
    exact CallWalk.mk.injEq .. ▸ ⟨CallWalk.stack_eq_nil_of_ahead hahead, hkept⟩
  · rw [hcalls, List.filterMap_filter]
    refine List.filterMap_congr fun n _ => ?_
    simp [ownCall?, callKind]
  · intro h
    rw [hcalls, List.pairwise_filterMap]
    refine h.pairwise_preorder.imp ?_
    intro n m hnm a ha b hb
    rw [line_of_ownCall? ha, line_of_ownCall? hb]
    exact Position.line_le hnm

/-- The name that a call calls. -/
def calleeAt (name : String) (start : Position) : Node :=
  .mk { kind := "identifier", field := some "function", text := some name, start } []

/-- The call `f(g(), func() ...)` with the call `h()` on the second line of the function literal.
The call of `f`, its callee and nothing else start at one place. -/
def callWithClosure : Node :=
  let inner := Node.mk { kind := "call_expression", start := ⟨1, 1⟩ } [calleeAt "h" ⟨1, 1⟩]
  let literal := Node.mk { kind := "func_literal", start := ⟨0, 7⟩ }
    [.mk { kind := "func", named := false, start := ⟨0, 7⟩ } [],
     .mk { kind := "block", start := ⟨0, 14⟩ } [inner]]
  let argument := Node.mk { kind := "call_expression", start := ⟨0, 2⟩ } [calleeAt "g" ⟨0, 2⟩]
  .mk { kind := "call_expression" }
    [calleeAt "f" ⟨0, 0⟩,
     .mk { kind := "argument_list", start := ⟨0, 1⟩ } [argument, literal]]

/-- The outer call comes first, then the one among its arguments, then the one in the literal. -/
theorem a_closure_is_entered_in_source_order :
    callWithClosure.InSourceOrder ∧
      calls (some callWithClosure) =
        [{ target := "f", line := 1 }, { target := "g", line := 1 }, { target := "h", line := 2 }] ∧
      (CallWalk.start callWithClosure).after 10 =
        { stack := [], kept := calls (some callWithClosure) } ∧
      (calls (some callWithClosure)).Pairwise fun a b => a.line ≤ b.line := by
  have horder : callWithClosure.InSourceOrder := ⟨by decide, by decide⟩
  obtain ⟨_, _, hend, hcalls, hlines⟩ := calls_are_kept_in_preorder callWithClosure
  exact ⟨horder, by rw [hcalls]; decide, hend, hlines horder⟩

end Node

end SourceAtlas
