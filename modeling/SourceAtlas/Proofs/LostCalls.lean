-- Which calls get lost. A function or method that is declared again takes the place of the
-- earlier one with all its calls. So the links that stand for calls are those that all
-- declarations ask for, less those of the declarations that were replaced.
import SourceAtlas.Proofs.CallLinks
import SourceAtlas.Proofs.LinkEnds

namespace SourceAtlas

/-! ## Replaced entries -/

namespace Table

variable {κ α : Type} [DecidableEq κ]

/-- The entries of a stream that no later entry replaces. -/
def lasting : List (κ × α) → List (κ × α)
  | [] => []
  | e :: es => if e.1 ∈ es.map (·.1) then lasting es else e :: lasting es

/-- The entries of a stream whose key comes again. -/
def replaced : List (κ × α) → List (κ × α)
  | [] => []
  | e :: es => if e.1 ∈ es.map (·.1) then e :: replaced es else replaced es

theorem lasting_append_replaced (es : List (κ × α)) : (lasting es ++ replaced es).Perm es := by
  induction es with
  | nil => exact List.Perm.nil
  | cons e es ih =>
    unfold lasting replaced
    split
    · exact List.perm_middle.trans (ih.cons e)
    · exact ih.cons e

theorem mem_keys_lasting (es : List (κ × α)) (k : κ) :
    k ∈ (lasting es).map (·.1) ↔ k ∈ es.map (·.1) := by
  induction es with
  | nil => rfl
  | cons e es ih =>
    unfold lasting
    split
    · rename_i hagain
      rw [ih, List.map_cons, List.mem_cons]
      constructor
      · exact Or.inr
      · rintro (rfl | h)
        · exact hagain
        · exact h
    · rw [List.map_cons, List.map_cons, List.mem_cons, List.mem_cons, ih]

theorem nodup_keys_lasting (es : List (κ × α)) : ((lasting es).map (·.1)).Nodup := by
  induction es with
  | nil => exact List.nodup_nil
  | cons e es ih =>
    unfold lasting
    split
    · exact ih
    · rename_i hnew
      rw [List.map_cons, List.nodup_cons]
      exact ⟨fun h => hnew ((mem_keys_lasting es e.1).mp h), ih⟩

/-- An entry that lasts is the last one under its key. -/
theorem last?_of_mem_lasting {es : List (κ × α)} {e : κ × α} (h : e ∈ lasting es) :
    last? es e.1 = some e.2 := by
  induction es with
  | nil => cases h
  | cons d ds ih =>
    rw [last?_cons]
    unfold lasting at h
    split at h
    · rw [ih h]
      rfl
    · rename_i hnew
      rcases List.mem_cons.mp h with rfl | h
      · rw [last?_eq_none hnew, if_pos rfl]
        rfl
      · rw [ih h]
        rfl

/-- An entry is replaced when its key comes again behind it. -/
theorem mem_replaced_iff {es : List (κ × α)} {e : κ × α} :
    e ∈ replaced es ↔ ∃ before after, es = before ++ e :: after ∧ e.1 ∈ after.map (·.1) := by
  induction es with
  | nil => simp [replaced]
  | cons d ds ih =>
    have hcons : e ∈ replaced (d :: ds) ↔ (e = d ∧ d.1 ∈ ds.map (·.1)) ∨ e ∈ replaced ds := by
      rw [replaced]
      split
      · rename_i hagain
        simp [hagain]
      · rename_i hnew
        simp [hnew]
    rw [hcons, ih]
    constructor
    · rintro (⟨rfl, hagain⟩ | ⟨before, after, rfl, hagain⟩)
      · exact ⟨[], ds, rfl, hagain⟩
      · exact ⟨d :: before, after, rfl, hagain⟩
    · rintro ⟨before, after, hsplit, hagain⟩
      cases before with
      | nil =>
        cases hsplit
        exact Or.inl ⟨rfl, hagain⟩
      | cons b before =>
        cases hsplit
        exact Or.inr ⟨before, after, rfl, hagain⟩

end Table

/-! ## The calls of all declarations -/

namespace Symbols

/-- The links that the calls in the body of a declaration ask for: one for each plain call of a
function of its package. -/
def callsIn (s : Symbols) (decl : Key × Option Node) : List Link :=
  (Node.nodesOf decl.2).filterMap (s.callLink? decl.1)

theorem callLink?_eq_some_iff {s : Symbols} {caller : Key} {node : Node} {l : Link} :
    s.callLink? caller node = some l ↔
      ∃ name, node.plainCallee? = some name ∧
        Key.function caller.packagePath name ∈ s.functions.keys ∧ l = caller.callLink name := by
  constructor
  · exact mem_callLink?
  · rintro ⟨name, hname, hin, rfl⟩
    unfold callLink?
    rw [hname, Option.bind_some, if_pos ((Table.contains_iff _ _).mpr hin)]

end Symbols

namespace Origin

theorem mem_functions_iff (o : Origin) (files : List SourceFile) (p n : String) :
    Key.function p n ∈ (o.gather files).functions.keys ↔
      ∃ body, (Key.function p n, body) ∈ o.bodies files := by
  rw [← mem_callers_iff, List.mem_append]
  constructor
  · exact Or.inl
  · rintro (h | h)
    · exact h
    · obtain ⟨q, r, m, hkey⟩ := (o.keyed_gather files).method_of_mem h
      cases hkey

/-- What a declaration asks for, said of its syntax tree and of what the files declare. -/
theorem mem_callsIn_iff (o : Origin) (files : List SourceFile) (decl : Key × Option Node)
    (l : Link) :
    l ∈ (o.gather files).callsIn decl ↔
      ∃ node ∈ Node.nodesOf decl.2, ∃ callee,
        node.kind = "call_expression" ∧ node.child? "function" = some callee ∧
        callee.kind = "identifier" ∧ callee.text ∉ CallSite.builtins ∧
        (∃ body, (Key.function decl.1.packagePath callee.text, body) ∈ o.bodies files) ∧
        l = decl.1.callLink callee.text := by
  unfold Symbols.callsIn
  rw [List.mem_filterMap]
  simp only [Symbols.callLink?_eq_some_iff, Node.plainCallee?_eq_some_iff, mem_functions_iff]
  constructor
  · rintro ⟨node, hnode, name, ⟨hkind, callee, hcallee, hident, rfl, hbuiltin⟩, hdeclared, rfl⟩
    exact ⟨node, hnode, callee, hkind, hcallee, hident, hbuiltin, hdeclared, rfl⟩
  · rintro ⟨node, hnode, callee, hkind, hcallee, hident, hbuiltin, hdeclared, rfl⟩
    exact ⟨node, hnode, callee.text, ⟨hkind, callee, hcallee, hident, rfl, hbuiltin⟩, hdeclared,
      rfl⟩

/-! ## Linked and lost calls -/

theorem nodup_callers (o : Origin) (files : List SourceFile) :
    ((o.gather files).functions.keys ++ (o.gather files).methods.keys).Nodup := by
  have hkeys := (o.keyed_gather files).nodup_keys
  unfold Symbols.keys at hkeys
  rw [List.append_assoc] at hkeys
  exact hkeys.of_append_right

/-- The links that stand for calls are those that the lasting declarations ask for. -/
theorem callLinks_perm (o : Origin) (files : List SourceFile) :
    (o.gather files).callLinks.Perm
      ((Table.lasting (o.bodies files)).flatMap (o.gather files).callsIn) := by
  -- the tables list functions before methods, so callers and declarations differ in their order
  have hcallers : ((o.gather files).functions.keys ++ (o.gather files).methods.keys).Perm
      ((Table.lasting (o.bodies files)).map (·.1)) := by
    refine (List.perm_ext_iff_of_nodup (o.nodup_callers files)
      (Table.nodup_keys_lasting _)).mpr fun k => ?_
    rw [mem_callers_iff, Table.mem_keys_lasting]
    simp
  have hbodies : ∀ decl ∈ Table.lasting (o.bodies files),
      (Node.nodesOf (o.lastBody files decl.1)).filterMap ((o.gather files).callLink? decl.1) =
        (o.gather files).callsIn decl := by
    intro decl hdecl
    unfold lastBody Symbols.callsIn
    rw [Table.last?_of_mem_lasting hdecl]
    rfl
  have hperm := hcallers.flatMap_right fun caller =>
    (Node.nodesOf (o.lastBody files caller)).filterMap ((o.gather files).callLink? caller)
  rw [List.flatMap_map] at hperm
  rw [callLinks_gather, ← List.flatMap_congr hbodies]
  exact hperm

/-- What the declarations ask for is linked, or it is lost with a declaration that is replaced. -/
theorem calls_perm (o : Origin) (files : List SourceFile) :
    ((o.bodies files).flatMap (o.gather files).callsIn).Perm
      ((o.gather files).callLinks ++
        (Table.replaced (o.bodies files)).flatMap (o.gather files).callsIn) := by
  have hsplit := (Table.lasting_append_replaced (o.bodies files)).symm.flatMap_right
    (o.gather files).callsIn
  rw [List.flatMap_append] at hsplit
  exact hsplit.trans ((o.callLinks_perm files).symm.append_right _)

/-- Nothing is lost exactly when no declaration that comes again asks for a link. -/
theorem lost_eq_nil_iff (o : Origin) (files : List SourceFile) :
    (Table.replaced (o.bodies files)).flatMap (o.gather files).callsIn = [] ↔
      ∀ before decl after, o.bodies files = before ++ decl :: after →
        decl.1 ∈ after.map (·.1) → (o.gather files).callsIn decl = [] := by
  rw [List.flatMap_eq_nil_iff]
  constructor
  · intro h before decl after hsplit hagain
    exact h decl (Table.mem_replaced_iff.mpr ⟨before, after, hsplit, hagain⟩)
  · intro h decl hdecl
    obtain ⟨before, after, hsplit, hagain⟩ := Table.mem_replaced_iff.mp hdecl
    exact h before decl after hsplit hagain

/-! ## The law -/

/-- The declarations of all files ask for one link for each of their plain calls of a function of
their package. These links are in the graph, but for those of a declaration whose key comes again.
So all of them are there, and as many links as calls, exactly when no such declaration has a call
of that sort, and in particular when no function and no method is declared twice. -/
theorem calls_are_lost_where_a_declaration_comes_again (o : Origin) (files : List SourceFile) :
    let s := o.gather files
    let linked := s.graph.links.filter (·.kind = .calls)
    let asked := (o.bodies files).flatMap s.callsIn
    (∀ decl ∈ o.bodies files, ∀ l, l ∈ s.callsIn decl ↔
        ∃ node ∈ Node.nodesOf decl.2, ∃ callee,
          node.kind = "call_expression" ∧ node.child? "function" = some callee ∧
          callee.kind = "identifier" ∧ callee.text ∉ CallSite.builtins ∧
          (∃ body, (Key.function decl.1.packagePath callee.text, body) ∈ o.bodies files) ∧
          l = decl.1.callLink callee.text) ∧
      asked.Perm (linked ++ (Table.replaced (o.bodies files)).flatMap s.callsIn) ∧
      (((∀ l ∈ asked, l ∈ linked) ∧ linked.length = asked.length) ↔
        ∀ before decl after, o.bodies files = before ++ decl :: after →
          decl.1 ∈ after.map (·.1) → s.callsIn decl = []) ∧
      (((o.bodies files).map (·.1)).Nodup → asked.Perm linked) := by
  intro s linked asked
  have hperm : asked.Perm (linked ++ (Table.replaced (o.bodies files)).flatMap s.callsIn) := by
    have hlinked : linked = s.callLinks := s.callLinks_graph
    rw [hlinked]
    exact o.calls_perm files
  have hkept : (Table.replaced (o.bodies files)).flatMap s.callsIn = [] → asked.Perm linked := by
    intro hnone
    rw [hnone, List.append_nil] at hperm
    exact hperm
  refine ⟨fun decl _ => o.mem_callsIn_iff files decl, hperm, ?_, ?_⟩
  · rw [← o.lost_eq_nil_iff files]
    constructor
    · rintro ⟨_, hcount⟩
      have hlength := hperm.length_eq
      rw [List.length_append, hcount] at hlength
      exact List.length_eq_zero_iff.mp (Nat.left_eq_add.mp hlength)
    · intro hnone
      exact ⟨fun l hl => (hkept hnone).mem_iff.mp hl, (hkept hnone).length_eq.symm⟩
  · intro honce
    apply hkept
    rw [o.lost_eq_nil_iff files]
    intro before decl after hsplit hagain
    rw [hsplit, List.map_append, List.map_cons] at honce
    exact absurd hagain (List.nodup_cons.mp honce.of_append_right).1

/-- Two functions of one name, where the first calls `f` and the second `g`. -/
def twoInits : List SourceFile :=
  [⟨"/r/x.go", .mk { kind := "source_file" }
    [.callingFunction "f" [], .callingFunction "g" [], .callingFunction "init" ["f"],
     .callingFunction "init" ["g"]]⟩]

/-- The call of `f` is lost, because the declaration that makes it comes again. -/
theorem the_first_of_two_functions_loses_its_call :
    let o : Origin := ⟨"/", "/r", "m"⟩
    let s := o.gather twoInits
    let toF : Link := { source := "m.init", target := "m.f", kind := .calls, method := some "f" }
    let toG : Link := { source := "m.init", target := "m.g", kind := .calls, method := some "g" }
    (o.bodies twoInits).flatMap s.callsIn = [toF, toG] ∧
      s.graph.links.filter (·.kind = .calls) = [toG] ∧
      ∃ before decl after, o.bodies twoInits = before ++ decl :: after ∧
        decl.1 ∈ after.map (·.1) ∧ s.callsIn decl ≠ [] := by
  intro o s toF toG
  have hasked : (o.bodies twoInits).flatMap s.callsIn = [toF, toG] := by
    subst s o toF toG; decide +kernel
  have hlinked : s.graph.links.filter (·.kind = .calls) = [toG] := by
    subst s o toG; decide +kernel
  refine ⟨hasked, hlinked, ?_⟩
  have hlaw := (calls_are_lost_where_a_declaration_comes_again o twoInits).2.2.1
  by_contra hnone
  push Not at hnone
  have hcount := (hlaw.mpr hnone).2
  rw [hasked, hlinked] at hcount
  cases hcount

end Origin

end SourceAtlas
