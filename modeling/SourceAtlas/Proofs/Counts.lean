-- The counts of a graph. Every component and every link is counted once, under its own kind,
-- and the order in which a graph keeps them shows neither in the counts nor in the lines that
-- people are told. In the graph of some tables the counts are the sizes of the tables.
import SourceAtlas.Graph.Stats
import SourceAtlas.Proofs.Containment

namespace SourceAtlas

namespace Stats

section

variable {κ : Type} [DecidableEq κ]

/-! ## Counting one by one -/

/-- All counts together. -/
def total (counts : List (κ × Nat)) : Nat := counts.foldr (fun c n => c.2 + n) 0

/-- One more of a kind makes the total larger by one, whether the kind was there or not. -/
theorem total_countOne (t : Table κ Nat) (k : κ) :
    total (countOne t k).entries = total t.entries + 1 := by
  obtain ⟨es⟩ := t
  unfold countOne Table.insert Table.get?
  dsimp only
  induction es with
  | nil => simp [Table.insertEntry, total]
  | cons e es ih =>
    by_cases hk : e.1 = k
    · simp only [Table.insertEntry, hk, if_true, decide_true, List.find?_cons_of_pos,
        Option.map_some, Option.getD_some, total, List.foldr_cons]
      omega
    · simp only [Table.insertEntry, hk, if_false, decide_false, Bool.false_eq_true,
        not_false_eq_true, List.find?_cons_of_neg, total, List.foldr_cons] at ih ⊢
      omega

theorem tally_snoc (kinds : List κ) (k : κ) : tally (kinds ++ [k]) = countOne (tally kinds) k := by
  unfold tally
  rw [List.foldl_append]
  rfl

/-! ## A whole tally -/

theorem total_tally (kinds : List κ) : total (tally kinds).entries = kinds.length := by
  induction kinds using List.reverseRecOn with
  | nil => rfl
  | append_singleton kinds k ih =>
    rw [tally_snoc, total_countOne, ih, List.length_append, List.length_singleton]

theorem nodup_keys_tally (kinds : List κ) : (tally kinds).keys.Nodup := by
  induction kinds using List.reverseRecOn with
  | nil => exact List.nodup_nil
  | append_singleton kinds k ih =>
    rw [tally_snoc]
    exact Table.nodup_keys_insert ih _ _

/-- A tally knows how often each kind occurs, and knows no other kind. -/
theorem get?_tally (kinds : List κ) (k : κ) :
    (tally kinds).get? k = if k ∈ kinds then some (kinds.count k) else none := by
  induction kinds using List.reverseRecOn with
  | nil => rfl
  | append_singleton kinds l ih =>
    rw [tally_snoc]
    unfold countOne
    rw [Table.get?_insert]
    by_cases hkl : k = l
    · subst hkl
      have hin : k ∈ kinds ++ [k] := by simp
      rw [if_pos rfl, ih, if_pos hin]
      by_cases hk : k ∈ kinds
      · simp [hk]
      · simp [hk, List.count_eq_zero_of_not_mem hk]
    · have hlk : ¬ l = k := fun h => hkl h.symm
      rw [if_neg hkl, ih]
      simp [hkl, hlk]

theorem mem_tally_iff {kinds : List κ} {k : κ} {n : Nat} :
    (k, n) ∈ (tally kinds).entries ↔ 0 < n ∧ n = kinds.count k := by
  rw [Table.mem_entries_iff (nodup_keys_tally kinds), get?_tally]
  split
  · rename_i hk
    have hpos : 0 < kinds.count k := List.count_pos_iff.mpr hk
    rw [Option.some.injEq]
    omega
  · rename_i hk
    have hzero : kinds.count k = 0 := List.count_eq_zero_of_not_mem hk
    simp only [reduceCtorEq, false_iff]
    omega

/-- The tally of the same kinds in another order has the same counts. -/
theorem tally_perm {kinds kinds' : List κ} (h : kinds.Perm kinds') :
    (tally kinds).entries.Perm (tally kinds').entries := by
  have hnodup : ∀ kinds : List κ, (tally kinds).entries.Nodup :=
    fun kinds => List.Nodup.of_map _ (nodup_keys_tally kinds)
  refine (List.perm_ext_iff_of_nodup (hnodup kinds) (hnodup kinds')).mpr ?_
  rintro ⟨k, n⟩
  rw [mem_tally_iff, mem_tally_iff, h.count_eq]

/-! ## The lines -/

omit [DecidableEq κ] in
/-- Counts of different kinds come out in one order only, so the order in which they go in does
not matter. -/
theorem rows_perm {word : κ → String} (hword : Function.Injective word)
    {counts counts' : List (κ × Nat)} (hkinds : (counts.map (·.1)).Nodup)
    (h : counts.Perm counts') : rows word counts = rows word counts' := by
  have hsorted : ∀ counts : List (κ × Nat),
      (counts.mergeSort fun a b => word a.1 ≤ word b.1).Pairwise
        fun a b => word a.1 ≤ word b.1 := pairwise_sortedBy fun c : κ × Nat => word c.1
  have hperm := ((List.mergeSort_perm counts fun a b => word a.1 ≤ word b.1).trans h).trans
    (List.mergeSort_perm counts' fun a b => word a.1 ≤ word b.1).symm
  have hsame : ∀ a b, a ∈ (counts.mergeSort fun a b => word a.1 ≤ word b.1) →
      b ∈ (counts'.mergeSort fun a b => word a.1 ≤ word b.1) →
        word a.1 ≤ word b.1 → word b.1 ≤ word a.1 → a = b := by
    intro a b ha hb hab hba
    have hkind : a.1 = b.1 := hword (String.le_antisymm hab hba)
    exact List.inj_on_of_nodup_map hkinds (List.mem_mergeSort.mp ha)
      (h.mem_iff.mpr (List.mem_mergeSort.mp hb)) hkind
  unfold rows
  rw [hperm.eq_of_pairwise hsame (hsorted counts) (hsorted counts')]

theorem rows_tally_perm {word : κ → String} (hword : Function.Injective word)
    {kinds kinds' : List κ} (h : kinds.Perm kinds') :
    rows word (tally kinds).entries = rows word (tally kinds').entries :=
  rows_perm hword (nodup_keys_tally kinds) (tally_perm h)

omit [DecidableEq κ] in
/-- Counts that are in order stay as they are. -/
theorem rows_of_sorted {word : κ → String} {counts : List (κ × Nat)}
    (h : counts.Pairwise fun a b => word a.1 ≤ word b.1) :
    rows word counts = counts.map fun (k, n) => "  - " ++ word k ++ ": " ++ toString n := by
  unfold rows
  rw [List.mergeSort_of_pairwise (by simpa using h)]

/-! ## What counts tell -/

/-- The counts tell of every item by its kind: no kind stands twice, a kind stands there with
the number of its items unless it has none, and the numbers add up to that of all items. -/
structure Accounts {α : Type} (kind : α → κ) (items : List α) (counts : List (κ × Nat)) : Prop where
  once : (counts.map (·.1)).Nodup
  count : ∀ k n, (k, n) ∈ counts ↔ 0 < n ∧ n = items.countP fun a => kind a = k
  total : total counts = items.length

theorem accounts_tally {α : Type} (kind : α → κ) (items : List α) :
    Accounts kind items (tally (items.map kind)).entries := by
  refine ⟨nodup_keys_tally _, ?_, ?_⟩
  · intro k n
    rw [mem_tally_iff, List.count_eq_countP, List.countP_map]
    rfl
  · rw [total_tally, List.length_map]

/-- The count of one kind, which is zero for a kind that was left out. -/
def countOf (counts : List (κ × Nat)) (k : κ) : Nat := ((Table.mk counts).get? k).getD 0

theorem countOf_tally (kinds : List κ) (k : κ) :
    countOf (tally kinds).entries k = kinds.count k := by
  unfold countOf
  rw [get?_tally]
  split
  · rfl
  · rename_i hk
    exact (List.count_eq_zero_of_not_mem hk).symm

end

end Stats

theorem Entity.word_injective : Function.Injective Entity.word := by
  intro e e'
  cases e <;> cases e' <;> decide

theorem LinkKind.word_injective : Function.Injective LinkKind.word := by
  intro k k'
  cases k <;> cases k' <;> decide

/-! ## Tables -/

namespace Symbols

theorem entities_components (s : Symbols) :
    s.components.map (·.entity) =
      List.replicate s.packages.size .package ++ s.types.entries.map (·.2.kind.entity) ++
        List.replicate s.functions.size .function ++ List.replicate s.methods.size .method := by
  simp [components, Table.size, List.map_const', Function.comp_def]

/-- Every type is a record or an interface. -/
theorem count_record_add_count_interface (types : List (Key × TypeDecl)) :
    (types.map (·.2.kind.entity)).count .struct + (types.map (·.2.kind.entity)).count .interface =
      types.length := by
  induction types with
  | nil => rfl
  | cons t types ih =>
    rw [List.map_cons, List.length_cons]
    rcases t.2.kind.entity_cases with h | h
    · rw [h, List.count_cons_self, List.count_cons_of_ne (by decide)]
      omega
    · rw [h, List.count_cons_self, List.count_cons_of_ne (by decide)]
      omega

/-- No type is anything else. -/
theorem count_other_types (types : List (Key × TypeDecl)) {e : Entity} (hrecord : e ≠ .struct)
    (hinterface : e ≠ .interface) : (types.map (·.2.kind.entity)).count e = 0 := by
  apply List.count_eq_zero_of_not_mem
  intro hmem
  obtain ⟨t, _, rfl⟩ := List.mem_map.mp hmem
  exact t.2.kind.entity_cases.elim hrecord hinterface

/-- The entities of the graph of some tables are counted as the tables are. -/
theorem count_graph (s : Symbols) (e : Entity) :
    Stats.countOf (Stats.ofGraph s.graph).byEntity e =
      (List.replicate s.packages.size Entity.package).count e +
        (s.types.entries.map (·.2.kind.entity)).count e +
        (List.replicate s.functions.size Entity.function).count e +
        (List.replicate s.methods.size Entity.method).count e := by
  unfold Stats.ofGraph
  rw [Stats.countOf_tally, components_graph, entities_components, List.count_append,
    List.count_append, List.count_append]

end Symbols

/-! ## The law -/

namespace Stats

/-- The counts of a graph tell of every component by its entity and of every link by its kind.
Two graphs with the same components and links, in whatever order, have the same lines. And in the
graph of some tables there is one count for each table: packages, types of both kinds together,
functions and methods. -/
theorem counts_tell_of_every_element :
    (∀ g : Graph,
      (ofGraph g).components = g.components.length ∧ (ofGraph g).links = g.links.length ∧
      Accounts Component.entity g.components (ofGraph g).byEntity ∧
      Accounts Link.kind g.links (ofGraph g).byLinkKind) ∧
    (∀ g h : Graph, g.components.Perm h.components → g.links.Perm h.links →
      (ofGraph g).text = (ofGraph h).text) ∧
    ∀ s : Symbols,
      countOf (ofGraph s.graph).byEntity .package = s.packages.size ∧
      countOf (ofGraph s.graph).byEntity .struct + countOf (ofGraph s.graph).byEntity .interface =
        s.types.size ∧
      countOf (ofGraph s.graph).byEntity .function = s.functions.size ∧
      countOf (ofGraph s.graph).byEntity .method = s.methods.size := by
  refine ⟨?_, ?_, ?_⟩
  · intro g
    exact ⟨rfl, rfl, accounts_tally _ _, accounts_tally _ _⟩
  · intro g h hcomponents hlinks
    have hentities :
        rows Entity.word (ofGraph g).byEntity = rows Entity.word (ofGraph h).byEntity :=
      rows_tally_perm Entity.word_injective (hcomponents.map _)
    have hkinds : rows LinkKind.word (ofGraph g).byLinkKind =
        rows LinkKind.word (ofGraph h).byLinkKind :=
      rows_tally_perm LinkKind.word_injective (hlinks.map _)
    have hcount : (ofGraph g).components = (ofGraph h).components := hcomponents.length_eq
    have hcount' : (ofGraph g).links = (ofGraph h).links := hlinks.length_eq
    unfold text lines
    rw [hentities, hkinds, hcount, hcount']
  · intro s
    simp only [Symbols.count_graph]
    refine ⟨?_, ?_, ?_, ?_⟩
    · rw [Symbols.count_other_types _ (by decide) (by decide)]
      simp [List.count_replicate]
    · have htypes := Symbols.count_record_add_count_interface s.types.entries
      simp only [List.count_replicate] at htypes ⊢
      simpa [Table.size] using htypes
    · rw [Symbols.count_other_types _ (by decide) (by decide)]
      simp [List.count_replicate]
    · rw [Symbols.count_other_types _ (by decide) (by decide)]
      simp [List.count_replicate]

/-- A package with two functions, one of which calls the other. -/
def smallGraph : Graph where
  components := [⟨"m.f", "f", .function⟩, ⟨"m.g", "g", .function⟩, ⟨"m", "m", .package⟩]
  links := [{ source := "m.f", target := "m.g", kind := .calls, method := some "g" },
    { source := "m", target := "m.f", kind := .contains },
    { source := "m", target := "m.g", kind := .contains }]

/-- The package comes first when the graph is turned round, and last in the lines all the same. -/
theorem a_graph_turned_round_has_the_same_lines :
    (ofGraph ⟨smallGraph.components.reverse, smallGraph.links.reverse⟩).text =
      "Found components: 3\n  - function: 2\n  - package: 1\nFound links: 3\n  - calls: 1\n" ++
        "  - contains: 2" := by
  obtain ⟨_, hturned, _⟩ := counts_tell_of_every_element
  rw [hturned ⟨smallGraph.components.reverse, smallGraph.links.reverse⟩ smallGraph
    (List.reverse_perm _) (List.reverse_perm _)]
  unfold text lines
  rw [rows_of_sorted (by decide +kernel), rows_of_sorted (by decide +kernel)]
  decide +kernel

end Stats

end SourceAtlas
