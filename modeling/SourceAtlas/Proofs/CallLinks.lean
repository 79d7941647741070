-- The links that stand for calls, from the syntax trees to the graph. A caller has one link
-- for each plain call in the body that was declared last under its key, when the name is
-- that of a function of its package, and no link besides.
import SourceAtlas.Proofs.CallWalk
import SourceAtlas.Proofs.Gathering
import SourceAtlas.Proofs.GraphPasses

namespace SourceAtlas

/-! ## The bodies of callers -/

/-- The key of the function or method that a top-level node declares. -/
def Node.callerKey? (package : String) (decl : Node) : Option Key :=
  if decl.kind = "function_declaration" then
    some (.function package (textOf (decl.child? "name")))
  else if decl.kind = "method_declaration" then
    some (.method package decl.receiver (textOf (decl.child? "name")))
  else none

namespace Origin

/-- The functions and methods of a list of files with their bodies, in source order. -/
def bodies (o : Origin) (files : List SourceFile) : List (Key × Option Node) :=
  files.flatMap fun file =>
    file.tree.parts.filterMap fun decl =>
      (decl.callerKey? (o.package file)).map fun key => (key, decl.child? "body")

/-- The body of the last function or method that was declared under a key. A declaration
without a body has none. -/
def lastBody (o : Origin) (files : List SourceFile) (key : Key) : Option Node :=
  (Table.last? (o.bodies files) key).join

end Origin

/-! ## The stream of callers -/

/-- The function part of a function or method. -/
def Declaration.asCaller? : Declaration → Option (Key × FunctionDecl)
  | function f => some (f.key, f)
  | method m => some (m.key, m.toFunctionDecl)
  | _ => none

theorem Node.callers_declarations (package file : String) (decl : Node) :
    (declarations package file decl).filterMap
        (fun d => d.asCaller?.map fun e => (e.1, e.2.calls)) =
      ((decl.callerKey? package).map fun key => (key, calls (decl.child? "body"))).toList := by
  unfold declarations callerKey?
  by_cases htype : decl.kind = "type_declaration"
  · have hnone : ∀ spec ∈ decl.parts.filter (·.kind == "type_spec"),
        (typeSpec package file spec).asCaller? = none := by
      intro spec _
      unfold typeSpec
      dsimp only
      split
      · rfl
      · split
        · rfl
        · split <;> rfl
    have hempty : ((decl.parts.filter (·.kind == "type_spec")).map
        (typeSpec package file)).filterMap
          (fun d => d.asCaller?.map fun e => (e.1, e.2.calls)) = [] := by
      rw [List.filterMap_map, List.filterMap_eq_nil_iff]
      intro spec hspec
      simp [hnone spec hspec]
    simp [htype, hempty]
  · by_cases hfun : decl.kind = "function_declaration"
    · simp [hfun, Declaration.asCaller?, FunctionDecl.key, functionDecl]
    · by_cases hmethod : decl.kind = "method_declaration"
      · simp [hmethod, Declaration.asCaller?, MethodDecl.key, functionDecl]
      · simp [htype, hfun, hmethod]

namespace Origin

/-- The calls of the callers are those of their bodies. -/
theorem callers_stream (o : Origin) (files : List SourceFile) :
    ((o.stream files).filterMap Declaration.asCaller?).map (fun e => (e.1, e.2.calls)) =
      (o.bodies files).map fun e => (e.1, Node.calls e.2) := by
  unfold stream bodies declarations Node.allDeclarations
  rw [List.map_filterMap, List.filterMap_flatMap, List.map_flatMap]
  refine List.flatMap_congr fun file _ => ?_
  rw [List.filterMap_flatMap, List.map_filterMap, List.filterMap_eq_flatMap_toList]
  refine List.flatMap_congr fun decl _ => ?_
  rw [Node.callers_declarations, Option.map_map]
  rfl

/-- What the tables hold for a caller is what was declared last under its key. -/
theorem last?_of_mem_callers (o : Origin) (files : List SourceFile) {key : Key}
    {f : FunctionDecl} (h : (key, f) ∈ (o.gather files).callers) :
    Table.last? ((o.stream files).filterMap Declaration.asCaller?) key = some f := by
  have hk := o.keyed_gather files
  -- functions and methods never share a key, so the other kind adds nothing under this one
  rcases List.mem_append.mp h with h | h
  · obtain rfl : key = f.key := hk.functions.own _ h
    have hget := (Table.mem_entries_iff hk.functions.nodup _ _).mp h
    rw [functions_gather, Table.get?_ofStream] at hget
    rw [← hget]
    apply Table.last?_filterMap_congr
    intro d _
    cases d <;> simp [Declaration.asCaller?, Declaration.asFunction?, FunctionDecl.key,
      MethodDecl.key]
  · obtain ⟨⟨k, m⟩, hm, he⟩ := List.mem_map.mp h
    cases he
    obtain rfl : key = m.key := hk.methods.own _ hm
    have hget := (Table.mem_entries_iff hk.methods.nodup _ _).mp hm
    rw [methods_gather, Table.get?_ofStream] at hget
    have hpart : Table.last? (((o.stream files).filterMap Declaration.asMethod?).map
        fun e => (e.1, e.2.toFunctionDecl)) m.key = some m.toFunctionDecl := by
      rw [Table.last?_map, hget]
      rfl
    rw [← hpart, List.map_filterMap]
    apply Table.last?_filterMap_congr
    intro d _
    cases d <;> simp [Declaration.asCaller?, Declaration.asMethod?, FunctionDecl.key,
      MethodDecl.key]

/-- The calls of a caller are those that its last body keeps. -/
theorem calls_of_mem_callers (o : Origin) (files : List SourceFile) {key : Key}
    {f : FunctionDecl} (h : (key, f) ∈ (o.gather files).callers) :
    f.calls = (Node.nodesOf (o.lastBody files key)).filterMap Node.ownCall? := by
  have hlast : (Table.last? (o.bodies files) key).map Node.calls = some f.calls := by
    rw [← Table.last?_map, ← callers_stream, Table.last?_map, o.last?_of_mem_callers files h]
    rfl
  obtain ⟨body, hbody, hcalls⟩ := Option.map_eq_some_iff.mp hlast
  unfold lastBody
  rw [hbody, ← hcalls, Node.calls_eq]
  rfl

/-- The callers are the declared functions and methods. -/
theorem mem_callers_iff (o : Origin) (files : List SourceFile) (key : Key) :
    key ∈ (o.gather files).functions.keys ++ (o.gather files).methods.keys ↔
      ∃ body, (key, body) ∈ o.bodies files := by
  have hkeys : ((o.stream files).filterMap Declaration.asCaller?).map (·.1) =
      (o.bodies files).map (·.1) := by
    have hfirst := congrArg (List.map (·.1)) (o.callers_stream files)
    rw [List.map_map, List.map_map] at hfirst
    exact hfirst
  have hcaller : ∀ d : Declaration, (∃ f, d.asCaller? = some (key, f)) ↔
      (∃ f, d.asFunction? = some (key, f)) ∨ ∃ m, d.asMethod? = some (key, m) := by
    intro d
    cases d <;> simp [Declaration.asCaller?, Declaration.asFunction?, Declaration.asMethod?]
  have hbody : (∃ body, (key, body) ∈ o.bodies files) ↔ key ∈ (o.bodies files).map (·.1) := by
    simp
  rw [List.mem_append, functions_gather, methods_gather, Table.mem_keys_ofStream,
    Table.mem_keys_ofStream, hbody, ← hkeys, Table.mem_keys_filterMap, Table.mem_keys_filterMap,
    Table.mem_keys_filterMap]
  simp only [hcaller, and_or_left, exists_or]

end Origin

/-! ## The law -/

/-- The link that stands for a plain call of `name` by a caller. -/
def Key.callLink (caller : Key) (name : String) : Link :=
  { source := caller.id
    target := (Key.function caller.packagePath name).id
    kind := .calls
    method := some name }

namespace Symbols

/-- The link that a node in the body of a caller gives: one for a plain call of a function of
the caller's package. -/
def callLink? (s : Symbols) (caller : Key) (node : Node) : Option Link :=
  node.plainCallee?.bind fun name =>
    if s.functions.contains (.function caller.packagePath name) then some (caller.callLink name)
    else none

theorem callLink?_eq (s : Symbols) (caller : Key) (node : Node) :
    s.callLink? caller node =
      node.ownCall?.bind fun call =>
        (s.resolveCall caller.packagePath call).map fun target =>
          { source := caller.id, target := target.id, kind := .calls,
            method := some call.target } := by
  unfold callLink? resolveCall
  rw [← Node.plain_ownCall?, Option.bind_assoc]
  refine congrArg _ (funext fun call => ?_)
  by_cases hselector : call.isSelector = true
  · simp [hselector]
  · by_cases hin : s.functions.contains (.function caller.packagePath call.target) = true
    · simp [hselector, hin, Key.callLink]
    · simp [hselector, hin]

theorem mem_callLink? {s : Symbols} {caller : Key} {node : Node} {l : Link}
    (h : s.callLink? caller node = some l) :
    ∃ name, node.plainCallee? = some name ∧
      Key.function caller.packagePath name ∈ s.functions.keys ∧ l = caller.callLink name := by
  obtain ⟨name, hname, hl⟩ := Option.bind_eq_some_iff.mp h
  split at hl
  · rename_i hin
    cases hl
    exact ⟨name, hname, (Table.contains_iff _ _).mp hin, rfl⟩
  · cases hl

theorem Keyed.package_caller {s : Symbols} (h : s.Keyed) {key : Key} {f : FunctionDecl}
    (he : (key, f) ∈ s.callers) : f.package = key.packagePath := by
  rcases List.mem_append.mp he with he | he
  · exact h.package_function he
  · obtain ⟨⟨k, m⟩, hm, heq⟩ := List.mem_map.mp he
    cases heq
    exact h.package_method hm

end Symbols

namespace Origin

theorem callLinks_gather (o : Origin) (files : List SourceFile) :
    (o.gather files).callLinks =
      ((o.gather files).functions.keys ++ (o.gather files).methods.keys).flatMap fun caller =>
        (Node.nodesOf (o.lastBody files caller)).filterMap
          ((o.gather files).callLink? caller) := by
  have hkeys : (o.gather files).functions.keys ++ (o.gather files).methods.keys =
      (o.gather files).callers.map (·.1) := by
    simp [Table.keys, Symbols.callers, Function.comp_def]
  rw [hkeys, List.flatMap_map]
  unfold Symbols.callLinks
  refine List.flatMap_congr fun e he => ?_
  obtain ⟨key, f⟩ := e
  have hpackage := (o.keyed_gather files).package_caller he
  dsimp only
  rw [o.calls_of_mem_callers files he, List.filterMap_filterMap, hpackage]
  refine List.filterMap_congr fun node _ => ?_
  exact ((o.gather files).callLink?_eq key node).symm

/-- The links that stand for calls, exactly and in order: callers as the tables list them,
and for each caller the plain calls in its last body, parents before children and from left
to right, that name a function of its package. So such a link never leads to a method or to
another package and never comes from a selector call, and no other link names a method. -/
theorem call_links_are_the_resolved_plain_calls (o : Origin) (files : List SourceFile) :
    let s := o.gather files
    let callers := s.functions.keys ++ s.methods.keys
    s.graph.links.filter (·.kind = .calls) =
        callers.flatMap (fun caller =>
          (Node.nodesOf (o.lastBody files caller)).filterMap (s.callLink? caller)) ∧
      (∀ caller, caller ∈ callers ↔ ∃ body, (caller, body) ∈ o.bodies files) ∧
      (∀ l ∈ s.graph.links, l.kind = .calls →
        ∃ caller ∈ callers, ∃ node ∈ Node.nodesOf (o.lastBody files caller), ∃ callee name,
          node.kind = "call_expression" ∧ node.child? "function" = some callee ∧
          callee.kind = "identifier" ∧ callee.text = name ∧ name ∉ CallSite.builtins ∧
          Key.function caller.packagePath name ∈ s.functions.keys ∧ l = caller.callLink name) ∧
      ∀ l ∈ s.graph.links, l.kind ≠ .calls → l.method = none := by
  intro s callers
  have hlinks : s.graph.links.filter (·.kind = .calls) =
      callers.flatMap (fun caller =>
        (Node.nodesOf (o.lastBody files caller)).filterMap (s.callLink? caller)) := by
    rw [Symbols.callLinks_graph]
    exact o.callLinks_gather files
  refine ⟨hlinks, o.mem_callers_iff files, ?_, fun l hl => Symbols.method_graph hl⟩
  intro l hl hkind
  have hcall : l ∈ s.graph.links.filter (·.kind = .calls) :=
    List.mem_filter.mpr ⟨hl, decide_eq_true hkind⟩
  rw [hlinks] at hcall
  obtain ⟨caller, hcaller, hl⟩ := List.mem_flatMap.mp hcall
  obtain ⟨node, hnode, hl⟩ := List.mem_filterMap.mp hl
  obtain ⟨name, hname, hin, hlink⟩ := Symbols.mem_callLink? hl
  obtain ⟨hcallkind, callee, hcallee, hident, htext, hbuiltin⟩ :=
    Node.plainCallee?_eq_some_iff.mp hname
  exact ⟨caller, hcaller, node, hnode, callee, name, hcallkind, hcallee, hident, htext,
    hbuiltin, hin, hlink⟩

end Origin

end SourceAtlas
