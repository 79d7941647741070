-- The directories that a walk comes to, in the order in which it comes to them. A walk ends
-- at the first of them that cannot be listed. When all of them can be, it has found the
-- source files of each, one directory after the other.
import SourceAtlas.Proofs.AnalysisRuns
import SourceAtlas.Proofs.ListLaws

namespace SourceAtlas

/-! ## Names in a tree -/

namespace Entry

/-- A name that something in a directory can have. -/
def isName (name : String) : Bool :=
  name != "" && name != "." && name != ".." && !name.toList.contains '/'
    && !name.toList.contains '\x00'

mutual
/-- All that stands below the entry has a proper name, and no two things in one directory
share theirs. -/
def wellNamed : Entry → Bool
  | file _ _ => true
  | link _ => true
  | directory _ es => allWellNamed es
termination_by structural e => e

def allWellNamed : List (String × Entry) → Bool
  | [] => true
  | (name, e) :: es =>
    isName name && !(es.map (·.1)).contains name && e.wellNamed && allWellNamed es
termination_by structural es => es
end

theorem allWellNamed_iff {es : List (String × Entry)} :
    allWellNamed es = true ↔
      (es.map (·.1)).Nodup ∧ ∀ x ∈ es, isName x.1 = true ∧ x.2.wellNamed = true := by
  induction es with
  | nil => simp [allWellNamed]
  | cons x es ih =>
    obtain ⟨name, e⟩ := x
    simp only [allWellNamed, Bool.and_eq_true, ih, List.map_cons, List.nodup_cons,
      List.forall_mem_cons, Bool.not_eq_true', List.contains_eq_mem, decide_eq_false_iff_not]
    tauto

theorem nul_not_mem_of_isName {name : String} (h : isName name = true) :
    '\x00' ∉ name.toList := by
  unfold isName at h
  simp only [Bool.and_eq_true, Bool.not_eq_true', List.contains_eq_mem,
    decide_eq_false_iff_not] at h
  exact h.2

theorem wellNamed_at? {e e' : Entry} {place : List String} (h : e.wellNamed = true)
    (hat : e.at? place = some e') : e'.wellNamed = true := by
  induction place generalizing e with
  | nil =>
    cases hat
    exact h
  | cons name place ih =>
    obtain ⟨inner, hchild, hat⟩ := Option.bind_eq_some_iff.mp hat
    obtain ⟨x, hx, rfl⟩ := Option.map_eq_some_iff.mp hchild
    refine ih ?_ hat
    cases e with
    | file mode content => cases hx
    | link target => cases hx
    | directory mode es =>
      exact ((allWellNamed_iff.mp h).2 x (List.mem_of_find?_eq_some hx)).2

end Entry

namespace Files

/-! ## Pairs in the order of their names -/

theorem byName_map {α β : Type} (g : α → β) (es : List (String × α)) :
    byName (es.map fun x => (x.1, g x.2)) = (byName es).map fun x => (x.1, g x.2) := by
  unfold byName
  rw [List.map_mergeSort]
  intro a _ b _
  rfl

theorem mem_byName {α : Type} {es : List (String × α)} {x : String × α} :
    x ∈ byName es ↔ x ∈ es := List.mem_mergeSort

/-- Pairs with different names come in strict order. -/
theorem byName_pairwise {α : Type} {es : List (String × α)} (h : (es.map (·.1)).Nodup) :
    (byName es).Pairwise fun a b => a.1 < b.1 := by
  have hle : (byName es).Pairwise fun a b => a.1 ≤ b.1 :=
    pairwise_sortedBy (fun x : String × α => x.1) es
  have hne : (byName es).Pairwise fun a b => a.1 ≠ b.1 := by
    apply List.pairwise_map.mp
    exact ((List.mergeSort_perm es _).map (·.1)).nodup_iff.mpr h
  refine (hle.and hne).imp ?_
  rintro a b ⟨hab, hab'⟩
  exact String.not_le.mp fun hba => hab' (String.le_antisymm hab hba)

/-! ## The directories of a walk -/

/-- The path leads to a directory that may be read. -/
def CanList (f : Files) (path : String) : Prop :=
  ∃ place mode es, f.find path = .ok (place, .directory mode es) ∧ mode.read = true

/-- A directory that a walk comes to. -/
structure Stop where
  /-- What the walk calls it. -/
  path : String
  /-- Where it stands. -/
  place : List String
  mode : Mode
  entries : List (String × Entry)

namespace Stop

/-- Why the directory cannot be listed under the name that the walk calls it by. -/
def fault? (f : Files) (d : Stop) : Option Fault :=
  match f.list d.path with
  | .error fault => some fault
  | .ok _ => none

def listable (f : Files) (d : Stop) : Bool := (d.fault? f).isNone

/-- The sub-directory that an entry of the directory is, unless it is left out. A link is
none. -/
def inner? (settings : Settings) (d : Stop) : String × Entry → Option (String × Stop)
  | (name, .directory mode es) =>
    if settings.excludes name then none
    else some (name, ⟨Path.join d.path name, d.place ++ [name], mode, es⟩)
  | _ => none

/-- The directories that a walk enters from this one. -/
def next (f : Files) (settings : Settings) (d : Stop) : List Stop :=
  if d.listable f then (byName (d.entries.filterMap (d.inner? settings))).map (·.2) else []

variable {f : Files} {settings : Settings} {d d' : Stop}

theorem fault?_eq_some_iff {fault : Fault} :
    d.fault? f = some fault ↔ f.list d.path = .error fault := by
  unfold fault?
  cases f.list d.path with
  | error fault' => simp
  | ok es => simp

theorem listable_iff : d.listable f = true ↔ f.CanList d.path := by
  unfold listable fault? list CanList
  constructor
  · intro h
    cases hfind : f.find d.path with
    | error cause => simp [hfind] at h
    | ok x =>
      obtain ⟨place, e⟩ := x
      cases e with
      | file mode content => simp [hfind] at h
      | link target => simp [hfind] at h
      | directory mode es =>
        refine ⟨place, mode, es, rfl, ?_⟩
        by_contra hread
        simp [hfind, hread] at h
  · rintro ⟨place, mode, es, hfind, hread⟩
    simp [hfind, hread]

theorem inner?_eq_some_iff {x : String × Entry} {name : String} :
    d.inner? settings x = some (name, d') ↔
      ∃ mode es, x = (name, .directory mode es) ∧ settings.excludes name = false ∧
        d' = ⟨Path.join d.path name, d.place ++ [name], mode, es⟩ := by
  fun_cases inner? settings d x with
  | case1 name' mode es hout =>
    simp only [reduceCtorEq, false_iff, not_exists]
    rintro _ _ ⟨hx, hin, _⟩
    cases hx
    simp [hout] at hin
  | case2 name' mode es hin =>
    constructor
    · intro h
      cases h
      exact ⟨mode, es, rfl, by simpa using hin, rfl⟩
    · rintro ⟨_, _, hx, _, rfl⟩
      cases hx
      rfl
  | case3 x hx =>
    simp only [reduceCtorEq, false_iff, not_exists]
    rintro mode es ⟨rfl, _⟩
    exact hx name mode es rfl

theorem mem_next_iff :
    d' ∈ d.next f settings ↔ d.listable f = true ∧ ∃ name mode es,
      (name, .directory mode es) ∈ d.entries ∧ settings.excludes name = false ∧
        d' = ⟨Path.join d.path name, d.place ++ [name], mode, es⟩ := by
  unfold next
  split
  · rename_i hlist
    simp only [List.mem_map, mem_byName, List.mem_filterMap, Prod.exists, exists_eq_right, hlist,
      true_and]
    constructor
    · rintro ⟨name, n, e, hmem, hinner⟩
      obtain ⟨mode, es, hx, hin, rfl⟩ := inner?_eq_some_iff.mp hinner
      rw [hx] at hmem
      exact ⟨name, mode, es, hmem, hin, rfl⟩
    · rintro ⟨name, mode, es, hmem, hin, rfl⟩
      exact ⟨name, name, _, hmem, inner?_eq_some_iff.mpr ⟨mode, es, rfl, hin, rfl⟩⟩
  · rename_i hlist
    simp [hlist]

theorem sizeOf_next (h : d' ∈ d.next f settings) : sizeOf d'.entries < sizeOf d.entries := by
  obtain ⟨_, name, mode, es, hmem, _, rfl⟩ := mem_next_iff.mp h
  have hlt := List.sizeOf_lt_of_mem hmem
  simp only [Prod.mk.sizeOf_spec, Entry.directory.sizeOf_spec] at hlt
  dsimp only
  omega

/-- The directory and all that a walk comes to below it, in the order of the walk. -/
def below (f : Files) (settings : Settings) (d : Stop) : List Stop :=
  d :: (d.next f settings).attach.flatMap fun x => below f settings x.1
termination_by sizeOf d.entries
decreasing_by exact sizeOf_next x.2

theorem below_eq (d : Stop) :
    d.below f settings = d :: (d.next f settings).flatMap (below f settings) := by
  rw [below]
  congr 1
  rw [List.flatMap_def, List.flatMap_def, List.attach_map_val (f := below f settings)]

/-- What holds of a directory when it holds of all that a walk enters from it, holds of
every directory. -/
theorem next_induction (f : Files) (settings : Settings) {P : Stop → Prop}
    (step : ∀ d, (∀ d' ∈ d.next f settings, P d') → P d) (d : Stop) : P d :=
  step d fun d' _ => next_induction f settings step d'
termination_by sizeOf d.entries
decreasing_by exact sizeOf_next ‹_›

/-- The source files in the directory itself. -/
def sources (f : Files) (settings : Settings) (d : Stop) : List String :=
  (f.sourceNames settings d.path d.entries).map (Path.join d.path)

end Stop

/-- What comes of a walk through directories: the fault of the first that cannot be listed, or the
source files of all of them. -/
def outcomeOf (f : Files) (settings : Settings) (stops : List Stop) :
    Except Fault (List String) :=
  match stops.findSome? (·.fault? f) with
  | some fault => .error fault
  | none => .ok (stops.flatMap (·.sources f settings))

section

variable {f : Files} {settings : Settings}

theorem outcomeOf_append (ds ds' : List Stop) :
    outcomeOf f settings (ds ++ ds') =
      (outcomeOf f settings ds).bind fun found =>
        (outcomeOf f settings ds').map (found ++ ·) := by
  unfold outcomeOf
  rw [List.findSome?_append, List.flatMap_append]
  cases ds.findSome? (·.fault? f) with
  | some fault => rfl
  | none =>
    cases ds'.findSome? (·.fault? f) with
    | some fault => rfl
    | none => rfl

theorem chain_outcomeOf {α : Type} (stops : α → List Stop) (xs : List α) :
    chain (xs.map fun x => outcomeOf f settings (stops x)) =
      outcomeOf f settings (xs.flatMap stops) := by
  induction xs with
  | nil => rfl
  | cons x xs ih =>
    rw [List.map_cons, List.flatMap_cons, outcomeOf_append]
    cases outcomeOf f settings (stops x) with
    | error fault => rfl
    | ok found => rw [chain, ih]; rfl

/-- What the walk comes back with from a directory. -/
def found (f : Files) (settings : Settings) (d : Stop) : Except Fault (List String) :=
  f.sourcesBelow settings d.path (.directory d.mode d.entries)

theorem sourcesOfEntries_eq (d : Stop) (es : List (String × Entry)) :
    sourcesOfEntries f settings d.path es =
      (es.filterMap (d.inner? settings)).map fun x => (x.1, found f settings x.2) := by
  induction es with
  | nil => rfl
  | cons x es ih =>
    obtain ⟨name, e⟩ := x
    rw [sourcesOfEntries, ih]
    cases e with
    | file mode content => rfl
    | link target => rfl
    | directory mode es' =>
      by_cases hout : settings.excludes name = true
      · simp [Stop.inner?, hout, Entry.isDirectory]
      · simp [Stop.inner?, hout, Entry.isDirectory, found]

theorem found_step (d : Stop) :
    found f settings d =
      match d.fault? f with
      | some fault => .error fault
      | none =>
        (chain ((d.next f settings).map (found f settings))).map (d.sources f settings ++ ·) := by
  unfold found Stop.next Stop.listable Stop.fault?
  rw [sourcesBelow]
  cases f.list d.path with
  | error fault => rfl
  | ok es =>
    simp only [Option.isNone_none, if_true, List.map_map]
    rw [sourcesOfEntries_eq, byName_map, List.map_map]
    rfl

/-- A walk that starts at a directory goes through `below` in order. -/
theorem found_eq (d : Stop) : found f settings d = outcomeOf f settings (d.below f settings) := by
  induction d using Stop.next_induction f settings with
  | step d ih =>
    have hnext : (d.next f settings).map (found f settings) =
        (d.next f settings).map fun d' => outcomeOf f settings (d'.below f settings) :=
      List.map_congr_left ih
    rw [found_step, hnext, chain_outcomeOf, Stop.below_eq]
    unfold outcomeOf
    rw [List.findSome?_cons, List.flatMap_cons]
    cases d.fault? f with
    | some fault => rfl
    | none =>
      cases ((d.next f settings).flatMap (Stop.below f settings)).findSome? (·.fault? f) with
      | some fault => rfl
      | none => rfl

end

/-! ## What is reached -/

/-- The directory is the start of the walk, or a real sub-directory of one that was reached
and could be listed, and is not left out. -/
inductive Reached (f : Files) (settings : Settings) (root : String) : Stop → Prop where
  | start {place : List String} {mode : Mode} {es : List (String × Entry)} :
    f.find root = .ok (some place, .directory mode es) →
    Reached f settings root ⟨root, place, mode, es⟩
  | enter {d : Stop} {name : String} {mode : Mode} {es : List (String × Entry)} :
    Reached f settings root d → d.listable f = true → (name, .directory mode es) ∈ d.entries →
    settings.excludes name = false →
    Reached f settings root ⟨Path.join d.path name, d.place ++ [name], mode, es⟩

/-- The directories that a walk from `root` comes to, in its order. -/
def stops (f : Files) (settings : Settings) (root : String) : List Stop :=
  match f.find root with
  | .ok (some place, .directory mode es) => Stop.below f settings ⟨root, place, mode, es⟩
  | _ => []

section

variable {f : Files} {settings : Settings} {root : String}

theorem Stop.mem_below_self (d : Stop) : d ∈ d.below f settings := by
  rw [Stop.below_eq]
  exact List.mem_cons_self

theorem Stop.mem_below_next {d e e' : Stop} (he : e ∈ d.below f settings)
    (he' : e' ∈ e.next f settings) : e' ∈ d.below f settings := by
  induction d using Stop.next_induction f settings with
  | step d ih =>
    rw [Stop.below_eq] at he ⊢
    rcases List.mem_cons.mp he with rfl | he
    · exact List.mem_cons_of_mem _ (List.mem_flatMap.mpr ⟨e', he', Stop.mem_below_self e'⟩)
    · obtain ⟨c, hc, he⟩ := List.mem_flatMap.mp he
      exact List.mem_cons_of_mem _ (List.mem_flatMap.mpr ⟨c, hc, ih c hc he⟩)

theorem reached_of_mem_below {d e : Stop} (hd : Reached f settings root d)
    (he : e ∈ d.below f settings) : Reached f settings root e := by
  induction d using Stop.next_induction f settings with
  | step d ih =>
    rw [Stop.below_eq] at he
    rcases List.mem_cons.mp he with rfl | he
    · exact hd
    · obtain ⟨c, hc, he⟩ := List.mem_flatMap.mp he
      obtain ⟨hlist, name, mode, es, hmem, hin, rfl⟩ := Stop.mem_next_iff.mp hc
      exact ih _ hc (.enter hd hlist hmem hin) he

/-- A walk comes to a directory exactly when it is reached. -/
theorem mem_stops_iff {d : Stop} : d ∈ f.stops settings root ↔ Reached f settings root d := by
  constructor
  · intro h
    unfold stops at h
    split at h
    · rename_i hfind
      exact reached_of_mem_below (.start hfind) h
    · cases h
  · intro h
    induction h with
    | start hfind =>
      unfold stops
      rw [hfind]
      exact Stop.mem_below_self _
    | @enter d name mode es _ hlist hmem hin ih =>
      have hnext := Stop.mem_next_iff.mpr ⟨hlist, name, mode, es, hmem, hin, rfl⟩
      unfold stops at ih ⊢
      split at ih
      · exact Stop.mem_below_next ih hnext
      · cases ih

theorem find_ok {path : String} {place : List String} {e : Entry}
    (h : f.find path = .ok (some place, e)) : f.root.at? place = some e := by
  unfold find at h
  cases hlocate : f.locate false path with
  | error cause =>
    rw [hlocate] at h
    cases h
  | ok spot =>
    rw [hlocate] at h
    simp only [bind, Except.bind] at h
    split at h
    · cases h
    · cases h
    · split at h
      · cases h
      · rename_i hat
        cases h
        exact hat

/-- All that a walk of a well-named tree finds on its way is well named. -/
theorem Reached.wellNamed {d : Stop} (hnames : f.root.wellNamed = true)
    (h : Reached f settings root d) : Entry.allWellNamed d.entries = true := by
  induction h with
  | start hfind => exact Entry.wellNamed_at? hnames (find_ok hfind)
  | enter _ _ hmem _ ih => exact ((Entry.allWellNamed_iff.mp ih).2 _ hmem).2

theorem Reached.nodup_names {d : Stop} (hnames : f.root.wellNamed = true)
    (h : Reached f settings root d) : (d.entries.map (·.1)).Nodup :=
  (Entry.allWellNamed_iff.mp (h.wellNamed hnames)).1

/-! ## The order of the walk -/

theorem Stop.place_of_mem_below {d e : Stop} (h : e ∈ d.below f settings) :
    d.place <+: e.place := by
  induction d using Stop.next_induction f settings with
  | step d ih =>
    rw [Stop.below_eq] at h
    rcases List.mem_cons.mp h with rfl | h
    · exact List.prefix_rfl
    · obtain ⟨c, hc, he⟩ := List.mem_flatMap.mp h
      obtain ⟨_, name, mode, es, _, _, rfl⟩ := Stop.mem_next_iff.mp hc
      exact (List.prefix_append d.place [name]).trans (ih _ hc he)

/-- Directories that are entered from one directory come in the order of their names. -/
theorem Stop.pairwise_next {d : Stop} (hnames : (d.entries.map (·.1)).Nodup) :
    (d.next f settings).Pairwise fun a b =>
      ∃ n m, n < m ∧ a.place = d.place ++ [n] ∧ b.place = d.place ++ [m] := by
  unfold Stop.next
  split
  · have hkept : ((d.entries.filterMap (d.inner? settings)).map (·.1)).Nodup := by
      refine List.Nodup.sublist ?_ hnames
      induction d.entries with
      | nil => simp
      | cons x es ih =>
        cases hx : d.inner? settings x with
        | none =>
          rw [List.filterMap_cons_none hx]
          exact ih.cons _
        | some y =>
          obtain ⟨_, _, rfl, _, _⟩ := Stop.inner?_eq_some_iff.mp hx
          rw [List.filterMap_cons_some hx]
          exact ih.cons_cons _
    have hplace : ∀ x ∈ byName (d.entries.filterMap (d.inner? settings)),
        x.2.place = d.place ++ [x.1] := by
      intro x hx
      obtain ⟨y, _, hy⟩ := List.mem_filterMap.mp (mem_byName.mp hx)
      obtain ⟨_, _, _, _, h⟩ := Stop.inner?_eq_some_iff.mp hy
      rw [h]
    rw [List.pairwise_map]
    refine (byName_pairwise hkept).imp_of_mem ?_
    intro a b ha hb hlt
    exact ⟨a.1, b.1, hlt, hplace a ha, hplace b hb⟩
  · exact List.Pairwise.nil

/-- A directory comes before those below it, and sub-directories with all below them come in
the order of their names. -/
theorem Stop.pairwise_below {d : Stop} (hnames : Entry.allWellNamed d.entries = true) :
    (d.below f settings).Pairwise fun a b => a.place < b.place := by
  induction d using Stop.next_induction f settings with
  | step d ih =>
    rw [Stop.below_eq, List.pairwise_cons, List.pairwise_flatMap]
    refine ⟨?_, ?_, ?_⟩
    · intro e he
      obtain ⟨c, hc, he⟩ := List.mem_flatMap.mp he
      obtain ⟨_, name, mode, es, _, _, rfl⟩ := Stop.mem_next_iff.mp hc
      obtain ⟨rest, hrest⟩ := Stop.place_of_mem_below he
      have hlt : ([] : List String) < [name] ++ rest := List.nil_lt_cons name rest
      simpa [← hrest] using List.append_left_lt hlt
    · intro c hc
      apply ih c hc
      obtain ⟨_, name, mode, es, hmem, _, rfl⟩ := Stop.mem_next_iff.mp hc
      exact ((Entry.allWellNamed_iff.mp hnames).2 _ hmem).2
    · -- two sub-directories part at their own names, whatever lies below them
      refine (Stop.pairwise_next (Entry.allWellNamed_iff.mp hnames).1).imp ?_
      rintro a b ⟨n, m, hlt, ha, hb⟩ x hx y hy
      obtain ⟨rest, hrest⟩ := Stop.place_of_mem_below hx
      obtain ⟨rest', hrest'⟩ := Stop.place_of_mem_below hy
      have hlast : [n] ++ rest < [m] ++ rest' := List.Lex.rel hlt
      rw [← hrest, ← hrest', ha, hb, List.append_assoc, List.append_assoc]
      exact List.append_left_lt hlast

theorem pairwise_stops (hnames : f.root.wellNamed = true) :
    (f.stops settings root).Pairwise fun d d' => d.place < d'.place := by
  unfold stops
  split
  · rename_i place mode es hfind
    have hstart : Reached f settings root ⟨root, place, mode, es⟩ := .start hfind
    exact Stop.pairwise_below (hstart.wellNamed hnames)
  · exact List.Pairwise.nil

end

end Files

end SourceAtlas
