-- What the passes put into a graph: one component for each key, and links whose kind
-- tells the pass that they come from.
import SourceAtlas.Graph.Build
import SourceAtlas.Proofs.Gathering

namespace SourceAtlas.Symbols

/-! ## The lists of a graph -/

theorem components_graph (s : Symbols) : s.graph.components = s.components := by
  change (((([] ++ s.components) ++ []) ++ []) ++ []) ++ [] = s.components
  simp

theorem links_graph (s : Symbols) :
    s.graph.links = s.importLinks ++ s.containsLinks ++ s.callLinks ++ s.typeLinks := by
  change (((([] ++ []) ++ s.importLinks) ++ s.containsLinks) ++ s.callLinks) ++ s.typeLinks = _
  simp

/-- The ids of the components are the texts of the keys. -/
theorem ids_graph (s : Symbols) : s.graph.components.map (·.id) = s.keys.map Key.id := by
  rw [components_graph]
  simp [components, keys, Table.keys, Function.comp_def]

/-! ## The links of each pass -/

theorem importLinks_shape {s : Symbols} {l : Link} (h : l ∈ s.importLinks) :
    l.kind = .imports ∧ l.method = none := by
  obtain ⟨e, _, hl⟩ := List.mem_flatMap.mp h
  obtain ⟨path, _, rfl⟩ := List.mem_map.mp hl
  exact ⟨rfl, rfl⟩

theorem containsLinks_shape {s : Symbols} {l : Link} (h : l ∈ s.containsLinks) :
    l.kind = .contains ∧ l.method = none := by
  rcases List.mem_append.mp h with h | h
  · rcases List.mem_append.mp h with h | h
    · obtain ⟨e, _, rfl⟩ := List.mem_map.mp h
      exact ⟨rfl, rfl⟩
    · obtain ⟨e, _, rfl⟩ := List.mem_map.mp h
      exact ⟨rfl, rfl⟩
  · obtain ⟨e, _, he⟩ := List.mem_filterMap.mp h
    dsimp only at he
    split at he
    · cases he
      exact ⟨rfl, rfl⟩
    · cases he

theorem callLinks_shape {s : Symbols} {l : Link} (h : l ∈ s.callLinks) : l.kind = .calls := by
  obtain ⟨e, _, hl⟩ := List.mem_flatMap.mp h
  obtain ⟨call, _, hc⟩ := List.mem_filterMap.mp hl
  obtain ⟨target, _, rfl⟩ := Option.map_eq_some_iff.mp hc
  rfl

theorem typeLinks_shape {s : Symbols} {l : Link} (h : l ∈ s.typeLinks) :
    (l.kind = .embeds ∨ l.kind = .uses) ∧ l.method = none := by
  obtain ⟨e, _, hl⟩ := List.mem_flatMap.mp h
  rcases List.mem_append.mp hl with hl | hl
  · obtain ⟨name, _, hn⟩ := List.mem_filterMap.mp hl
    obtain ⟨target, _, rfl⟩ := Option.map_eq_some_iff.mp hn
    exact ⟨Or.inl rfl, rfl⟩
  · obtain ⟨field, _, hf⟩ := List.mem_filterMap.mp hl
    split at hf
    · obtain ⟨target, _, rfl⟩ := Option.map_eq_some_iff.mp hf
      exact ⟨Or.inr rfl, rfl⟩
    · cases hf

/-! ## The links of one kind -/

/-- Links that are all of one kind are kept or dropped together. -/
theorem filter_kind {ls : List Link} {own : LinkKind} (h : ∀ l ∈ ls, l.kind = own)
    (kind : LinkKind) : ls.filter (·.kind = kind) = if own = kind then ls else [] := by
  split
  · rename_i hsame
    exact List.filter_eq_self.mpr fun l hl => decide_eq_true ((h l hl).trans hsame)
  · rename_i hother
    refine List.filter_eq_nil_iff.mpr fun l hl => ?_
    rw [h l hl]
    simpa using hother

/-- Each pass gives the links of its own kinds. -/
theorem links_of_kind (s : Symbols) (kind : LinkKind) :
    s.graph.links.filter (·.kind = kind) =
      (if .imports = kind then s.importLinks else []) ++
        (if .contains = kind then s.containsLinks else []) ++
        (if .calls = kind then s.callLinks else []) ++ s.typeLinks.filter (·.kind = kind) := by
  rw [links_graph, List.filter_append, List.filter_append, List.filter_append,
    filter_kind fun l hl => (importLinks_shape hl).1,
    filter_kind fun l hl => (containsLinks_shape hl).1, filter_kind fun l hl => callLinks_shape hl]

theorem typeLinks_filter_kind (s : Symbols) {kind : LinkKind} (hembeds : kind ≠ .embeds)
    (huses : kind ≠ .uses) : s.typeLinks.filter (·.kind = kind) = [] := by
  refine List.filter_eq_nil_iff.mpr fun l hl => ?_
  rcases (typeLinks_shape hl).1 with hkind | hkind
  · rw [hkind]
    simpa using hembeds.symm
  · rw [hkind]
    simpa using huses.symm

/-- The links of kind `imports` are those of the pass over imports. -/
theorem importLinks_graph (s : Symbols) :
    s.graph.links.filter (·.kind = .imports) = s.importLinks := by
  rw [links_of_kind, typeLinks_filter_kind s (by decide) (by decide)]
  simp

/-- The links of kind `contains` are those of the pass over what contains what. -/
theorem containsLinks_graph (s : Symbols) :
    s.graph.links.filter (·.kind = .contains) = s.containsLinks := by
  rw [links_of_kind, typeLinks_filter_kind s (by decide) (by decide)]
  simp

/-- The links of kind `calls` are those of the pass over calls. -/
theorem callLinks_graph (s : Symbols) :
    s.graph.links.filter (·.kind = .calls) = s.callLinks := by
  rw [links_of_kind, typeLinks_filter_kind s (by decide) (by decide)]
  simp

/-- The links of kind `embeds` or `uses` are those of the pass over types. -/
theorem typeLinks_graph (s : Symbols) :
    s.graph.links.filter (fun l => l.kind = .embeds ∨ l.kind = .uses) = s.typeLinks := by
  have hother : ∀ {ls : List Link} {own : LinkKind}, (∀ l ∈ ls, l.kind = own) → own ≠ .embeds →
      own ≠ .uses → ls.filter (fun l => l.kind = .embeds ∨ l.kind = .uses) = [] := by
    intro ls own hown hembeds huses
    refine List.filter_eq_nil_iff.mpr fun l hl => ?_
    simp [hown l hl, hembeds, huses]
  have hself : s.typeLinks.filter (fun l => l.kind = .embeds ∨ l.kind = .uses) = s.typeLinks :=
    List.filter_eq_self.mpr fun l hl => decide_eq_true (typeLinks_shape hl).1
  rw [links_graph, List.filter_append, List.filter_append, List.filter_append, hself,
    hother (fun l hl => (importLinks_shape hl).1) (by decide) (by decide),
    hother (fun l hl => (containsLinks_shape hl).1) (by decide) (by decide),
    hother (fun l hl => callLinks_shape hl) (by decide) (by decide)]
  rfl

/-- Only links that stand for calls carry the name that was called. -/
theorem method_graph {s : Symbols} {l : Link} (h : l ∈ s.graph.links) (hk : l.kind ≠ .calls) :
    l.method = none := by
  rw [links_graph] at h
  rcases List.mem_append.mp h with h | h
  · rcases List.mem_append.mp h with h | h
    · rcases List.mem_append.mp h with h | h
      · exact (importLinks_shape h).2
      · exact (containsLinks_shape h).2
    · exact absurd (callLinks_shape h) hk
  · exact (typeLinks_shape h).2

end SourceAtlas.Symbols
