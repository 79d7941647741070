-- Where links begin and end. Every link begins at a component, and every link that is no import
-- also ends at one: the two symbols belong to one package, and the kind of the link says what
-- they are. An import alone may lead out of the graph.
import SourceAtlas.Proofs.Containment

namespace SourceAtlas

/-! ## What a link can join -/

/-- The pairs of symbols that a link of a kind can join. Imports join none: what they name need
not be a symbol. -/
inductive LinkKind.Joins : LinkKind → Key → Key → Prop
  | packageType (p n : String) : Joins .contains (.package p) (.type p n)
  | packageFunction (p n : String) : Joins .contains (.package p) (.function p n)
  | typeMethod (p r n : String) : Joins .contains (.type p r) (.method p r n)
  | functionCall (p n callee : String) : Joins .calls (.function p n) (.function p callee)
  | methodCall (p r n callee : String) : Joins .calls (.method p r n) (.function p callee)
  | uses (p n m : String) : Joins .uses (.type p n) (.type p m)
  | embeds (p n m : String) : Joins .embeds (.type p n) (.type p m)

theorem LinkKind.Joins.packagePath_eq {kind : LinkKind} {k l : Key} (h : kind.Joins k l) :
    k.packagePath = l.packagePath := by
  cases h <;> rfl

theorem Key.joins_owner {k owner : Key} (h : k.owner? = some owner) :
    LinkKind.contains.Joins owner k := by
  cases k with
  | package p => cases h
  | type p n => cases h; exact .packageType p n
  | function p n => cases h; exact .packageFunction p n
  | method p r n => cases h; exact .typeMethod p r n

namespace Symbols

/-- The link leads from a known symbol to a known symbol, and its kind fits the two. -/
def Joined (s : Symbols) (l : Link) : Prop :=
  ∃ k ∈ s.keys, ∃ k' ∈ s.keys, k.id = l.source ∧ k'.id = l.target ∧ l.kind.Joins k k'

variable {s : Symbols}

/-! ## The ends of the links of each pass -/

theorem importLinks_source {l : Link} (h : l ∈ s.importLinks) :
    ∃ k ∈ s.packages.keys, k.id = l.source := by
  obtain ⟨e, he, hl⟩ := List.mem_flatMap.mp h
  obtain ⟨path, _, rfl⟩ := List.mem_map.mp hl
  exact ⟨e.1, Table.mem_keys_of_mem he, rfl⟩

theorem containsLinks_joined (h : s.Keyed) (hhoused : s.Housed) {l : Link}
    (hl : l ∈ s.containsLinks) : s.Joined l := by
  rw [containsLinks_eq h hhoused] at hl
  obtain ⟨k, hk, hlink⟩ := List.mem_filterMap.mp hl
  obtain ⟨owner, howner, rfl⟩ := Option.map_eq_some_iff.mp hlink
  obtain ⟨howner, hknown⟩ := Option.filter_eq_some_iff.mp howner
  exact ⟨owner, of_decide_eq_true hknown, k, hk, rfl, rfl, Key.joins_owner howner⟩

theorem resolveCall_eq_some {p : String} {call : CallSite} {k : Key}
    (h : s.resolveCall p call = some k) :
    k = .function p call.target ∧ k ∈ s.functions.keys := by
  unfold resolveCall at h
  split at h
  · cases h
  · dsimp only at h
    split at h
    · rename_i hin
      cases h
      exact ⟨rfl, (Table.contains_iff _ _).mp hin⟩
    · cases h

/-- A caller is a function or a method. -/
theorem Keyed.joins_callee (h : s.Keyed) {k : Key} {f : FunctionDecl} (he : (k, f) ∈ s.callers)
    (callee : String) :
    k ∈ s.keys ∧ LinkKind.calls.Joins k (.function f.package callee) := by
  rcases List.mem_append.mp he with he | he
  · have hk := functions_subset_keys (Table.mem_keys_of_mem he)
    obtain rfl : k = f.key := h.functions.own _ he
    exact ⟨hk, .functionCall f.package f.name callee⟩
  · obtain ⟨⟨l, m⟩, hm, heq⟩ := List.mem_map.mp he
    cases heq
    have hk := methods_subset_keys (Table.mem_keys_of_mem hm)
    obtain rfl : k = m.key := h.methods.own _ hm
    exact ⟨hk, .methodCall m.package m.receiver m.name callee⟩

theorem callLinks_joined (h : s.Keyed) {l : Link} (hl : l ∈ s.callLinks) : s.Joined l := by
  obtain ⟨⟨k, f⟩, he, hl⟩ := List.mem_flatMap.mp hl
  obtain ⟨call, _, hcall⟩ := List.mem_filterMap.mp hl
  obtain ⟨target, htarget, rfl⟩ := Option.map_eq_some_iff.mp hcall
  obtain ⟨rfl, hknown⟩ := resolveCall_eq_some htarget
  obtain ⟨hk, hjoins⟩ := h.joins_callee he call.target
  exact ⟨k, hk, _, functions_subset_keys hknown, rfl, rfl, hjoins⟩

theorem declaredType?_eq_some {p name : String} {k : Key} (h : s.declaredType? p name = some k) :
    k = .type p name ∧ k ∈ s.types.keys := by
  unfold declaredType? at h
  split at h
  · rename_i hin
    cases h
    rw [Bool.and_eq_true] at hin
    exact ⟨rfl, (Table.contains_iff _ _).mp hin.2⟩
  · cases h

theorem typeLinks_joined (h : s.Keyed) {l : Link} (hl : l ∈ s.typeLinks) : s.Joined l := by
  obtain ⟨⟨k, t⟩, he, hl⟩ := List.mem_flatMap.mp hl
  have hk : k ∈ s.keys := types_subset_keys (Table.mem_keys_of_mem he)
  obtain rfl : k = t.key := h.types.own _ he
  rcases List.mem_append.mp hl with hl | hl
  · obtain ⟨name, _, hname⟩ := List.mem_filterMap.mp hl
    obtain ⟨target, htarget, rfl⟩ := Option.map_eq_some_iff.mp hname
    obtain ⟨rfl, hknown⟩ := declaredType?_eq_some htarget
    exact ⟨t.key, hk, _, types_subset_keys hknown, rfl, rfl, .embeds _ _ _⟩
  · obtain ⟨field, _, hfield⟩ := List.mem_filterMap.mp hl
    split at hfield
    · obtain ⟨target, htarget, rfl⟩ := Option.map_eq_some_iff.mp hfield
      obtain ⟨rfl, hknown⟩ := declaredType?_eq_some htarget
      exact ⟨t.key, hk, _, types_subset_keys hknown, rfl, rfl, .uses _ _ _⟩
    · cases hfield

/-! ## The links of a graph -/

/-- A link joins two known symbols, or it is an import from a known package. -/
theorem joined_or_import (h : s.Keyed) (hhoused : s.Housed) {l : Link} (hl : l ∈ s.graph.links) :
    s.Joined l ∨ l.kind = .imports ∧ ∃ k ∈ s.packages.keys, k.id = l.source := by
  rw [links_graph] at hl
  rcases List.mem_append.mp hl with hl | hl
  · rcases List.mem_append.mp hl with hl | hl
    · rcases List.mem_append.mp hl with hl | hl
      · exact Or.inr ⟨(importLinks_shape hl).1, importLinks_source hl⟩
      · exact Or.inl (containsLinks_joined h hhoused hl)
    · exact Or.inl (callLinks_joined h hl)
  · exact Or.inl (typeLinks_joined h hl)

theorem mem_ids {k : Key} (hk : k ∈ s.keys) : k.id ∈ s.graph.components.map (·.id) := by
  rw [ids_graph]
  exact List.mem_map_of_mem hk

end Symbols

/-! ## The law -/

namespace Origin

/-- Every link begins at a component. Every link that is no import also ends at a component, and
it leads from one symbol of the tables to another one of the same package, where the kinds of the
two fit the kind of the link. -/
theorem only_imports_lead_out_of_the_graph (o : Origin) (files : List SourceFile) :
    let s := o.gather files
    let ids := s.graph.components.map (·.id)
    ∀ l ∈ s.graph.links,
      l.source ∈ ids ∧
        (l.kind ≠ .imports →
          l.target ∈ ids ∧
            ∃ k ∈ s.keys, ∃ k' ∈ s.keys, k.id = l.source ∧ k'.id = l.target ∧
              k.packagePath = k'.packagePath ∧ l.kind.Joins k k') := by
  intro s ids l hl
  rcases Symbols.joined_or_import (o.keyed_gather files) (o.housed_gather files) hl with
    ⟨k, hk, k', hk', hsource, htarget, hjoins⟩ | ⟨himport, k, hk, hsource⟩
  · refine ⟨hsource ▸ Symbols.mem_ids hk, fun _ => ⟨htarget ▸ Symbols.mem_ids hk', ?_⟩⟩
    exact ⟨k, hk, k', hk', hsource, htarget, hjoins.packagePath_eq, hjoins⟩
  · refine ⟨hsource ▸ Symbols.mem_ids (Symbols.packages_subset_keys hk), ?_⟩
    exact fun hkind => absurd himport hkind

end Origin

namespace Node

/-- A function that calls the given names, one after the other. -/
def callingFunction (name : String) (callees : List String) : Node :=
  .mk { kind := "function_declaration" }
    [.mk { kind := "identifier", field := some "name", text := some name } [],
     .mk { kind := "block", field := some "body" }
       (callees.map fun callee =>
         .mk { kind := "call_expression" }
           [.mk { kind := "identifier", field := some "function", text := some callee } []])]

/-- An import declaration with one path. -/
def singleImport (path : String) : Node :=
  .mk { kind := "import_declaration" }
    [.mk { kind := "import_spec" }
      [.mk { kind := "interpreted_string_literal", field := some "path", text := some path } []]]

end Node

namespace Origin

/-- A package that imports a package nobody wrote, and a function in it that calls another. -/
def danglingImport : List SourceFile :=
  [⟨"/r/x.go", .mk { kind := "source_file" }
    [.singleImport "\"m.x/gone\"", .callingFunction "f" ["g"], .callingFunction "g" []]⟩]

/-- The import leads to no component, and the call joins two functions. -/
theorem an_import_may_lead_nowhere :
    let s := (⟨"/", "/r", "m.x"⟩ : Origin).gather danglingImport
    let gone : Link := { source := "m.x", target := "m.x/gone", kind := .imports }
    let call : Link := { source := "m.x.f", target := "m.x.g", kind := .calls, method := some "g" }
    gone ∈ s.graph.links ∧ gone.source ∈ s.graph.components.map (·.id) ∧
      gone.target ∉ s.graph.components.map (·.id) ∧ call ∈ s.graph.links ∧
      ∃ k ∈ s.keys, ∃ k' ∈ s.keys, k.id = "m.x.f" ∧ k'.id = "m.x.g" ∧
        LinkKind.calls.Joins k k' := by
  intro s gone call
  have hgone : gone ∈ s.graph.links := by subst s gone; decide +kernel
  have hout : gone.target ∉ s.graph.components.map (·.id) := by subst s gone; decide +kernel
  have hcall : call ∈ s.graph.links := by subst s call; decide +kernel
  have hlaw := only_imports_lead_out_of_the_graph ⟨"/", "/r", "m.x"⟩ danglingImport
  refine ⟨hgone, (hlaw gone hgone).1, hout, hcall, ?_⟩
  obtain ⟨_, k, hk, k', hk', hsource, htarget, _, hjoins⟩ := (hlaw call hcall).2 (by decide)
  exact ⟨k, hk, k', hk', hsource, htarget, hjoins⟩

end Origin

end SourceAtlas
