-- The order of a walk. Files go by the ways that lead to them, and the order in which a directory
-- lists what stands in it is never seen.
import SourceAtlas.Proofs.WalkFiles

namespace SourceAtlas

/-! ## Files of one directory -/

namespace Path.Before

variable {a b : String} {as bs dir way : List String}

theorem not_nil : ¬ Before way [] := by
  intro h
  cases h

/-- A file further down never comes before a file of the directory itself. -/
theorem not_singleton (has : as ≠ []) : ¬ Before (a :: as) [b] := by
  intro h
  cases h with
  | files => exact has rfl
  | inside h => exact not_nil h

/-- Where both ways go on, they part here or further down. -/
theorem cons_cases (has : as ≠ []) (hbs : bs ≠ []) (h : Before (a :: as) (b :: bs)) :
    a < b ∨ a = b ∧ Before as bs := by
  cases h with
  | files => exact absurd rfl has
  | fileFirst => exact absurd rfl has
  | directories hlt => exact .inl hlt
  | inside h => exact .inr ⟨rfl, h⟩

/-- Between two files of one directory there are only files of that directory. -/
theorem eq_of_between (h : Before (dir ++ [a]) way) (h' : Before way (dir ++ [b])) :
    ∃ c, way = dir ++ [c] := by
  induction dir generalizing way with
  | nil =>
    cases h with
    | files => exact ⟨_, rfl⟩
    | fileFirst => exact absurd h' (not_singleton (by simp))
    | inside h => cases h
  | cons name dir ih =>
    cases way with
    | nil => exact absurd h not_nil
    | cons name' way =>
      have hway : way ≠ [] := by
        rintro rfl
        exact not_singleton (by simp) h
      rcases cons_cases (by simp) hway h with hlt | ⟨rfl, hinner⟩
      · rcases cons_cases hway (by simp) h' with hlt' | ⟨rfl, _⟩
        · exact absurd hlt' (String.lt_asymm hlt)
        · exact absurd hlt (String.lt_irrefl _)
      · rcases cons_cases hway (by simp) h' with hlt' | ⟨_, hinner'⟩
        · exact absurd hlt' (String.lt_irrefl _)
        · obtain ⟨c, rfl⟩ := ih hinner hinner'
          exact ⟨c, rfl⟩

/-- No file of a directory comes after one that stands further down. -/
theorem not_of_below (has : as ≠ []) : ¬ Before (dir ++ a :: as) (dir ++ [b]) := by
  intro h
  induction dir with
  | nil => exact not_singleton has h
  | cons name dir ih =>
    rcases cons_cases (by simp) (by simp) h with hlt | ⟨_, h⟩
    · exact String.lt_irrefl _ hlt
    · exact ih h

end Path.Before

/-- The way to the directory that a file stands in. -/
def Path.home (root path : String) : List String := (below root path).dropLast

/-! ## The same tree listed in another way -/

namespace Entry

/-- The tree with its directories listed in another order: one directory's entries are reordered,
or something below one is, any number of times. -/
inductive Reordered : Entry → Entry → Prop
  | refl (e : Entry) : Reordered e e
  | listed {mode : Mode} {es es' : List (String × Entry)} :
    es.Perm es' → Reordered (directory mode es) (directory mode es')
  | inside {mode : Mode} {name : String} {e e' : Entry} (front back : List (String × Entry)) :
    Reordered e e' →
    Reordered (directory mode (front ++ (name, e) :: back))
      (directory mode (front ++ (name, e') :: back))
  | trans {e e' e'' : Entry} : Reordered e e' → Reordered e' e'' → Reordered e e''

/-- The same things stand at the same places. -/
def Alike (e e' : Entry) : Prop :=
  ∀ place, (e.at? place).map face = (e'.at? place).map face

variable {e e' : Entry}

theorem Reordered.wellNamed (h : Reordered e e') (hnames : e.wellNamed = true) :
    e'.wellNamed = true := by
  induction h with
  | refl => exact hnames
  | listed hperm =>
    obtain ⟨hnodup, hall⟩ := allWellNamed_iff.mp hnames
    exact allWellNamed_iff.mpr
      ⟨(hperm.map _).nodup_iff.mp hnodup, fun x hx => hall x (hperm.mem_iff.mpr hx)⟩
  | inside front back _ ih =>
    obtain ⟨hnodup, hall⟩ := allWellNamed_iff.mp hnames
    refine allWellNamed_iff.mpr ⟨by simpa using hnodup, fun x hx => ?_⟩
    rcases List.mem_append.mp hx with hx | hx
    · exact hall x (by simp [hx])
    · rcases List.mem_cons.mp hx with rfl | hx
      · have hold := hall _ (List.mem_append_right front List.mem_cons_self)
        exact ⟨hold.1, ih hold.2⟩
      · exact hall x (by simp [hx])
  | trans _ _ ih ih' => exact ih' (ih hnames)

/-- Reordering moves nothing. -/
theorem Reordered.alike (h : Reordered e e') (hnames : e.wellNamed = true) : Alike e e' := by
  induction h with
  | refl => exact fun _ => rfl
  | @listed mode es es' hperm =>
    intro place
    cases place with
    | nil => rfl
    | cons name rest =>
      have hnodup := (allWellNamed_iff.mp hnames).1
      have hnodup' := (hperm.map (·.1)).nodup_iff.mp hnodup
      have hchild : (directory mode es).child? name = (directory mode es').child? name :=
        Option.ext fun c => by
          rw [child?_eq_some_iff hnodup, child?_eq_some_iff hnodup', hperm.mem_iff]
      simp only [at?, hchild]
  | @inside mode name e e' front back _ ih =>
    intro place
    cases place with
    | nil => rfl
    | cons name' rest =>
      have hinner := ((allWellNamed_iff.mp hnames).2 (name, e) (by simp)).2
      simp only [at?, child?, entries, List.find?_append]
      cases front.find? (·.1 == name') with
      | some x => rfl
      | none =>
        cases hname : name == name' with
        | false => simp [hname]
        | true => simpa [hname] using ih hinner rest
  | trans h _ ih ih' => exact fun place => (ih hnames place).trans (ih' (h.wellNamed hnames) place)

namespace Alike

theorem symm (h : Alike e e') : Alike e' e := fun place => (h place).symm

theorem at?_some (h : Alike e e') {place : List String} {x : Entry} (hat : e.at? place = some x) :
    ∃ x', e'.at? place = some x' ∧ x'.face = x.face := by
  simpa [hat] using (h place).symm

/-- A path leads to the same end. -/
theorem follow_eq (h : Alike e e') (made : Bool) (links : Nat) (place rest : List String) :
    Files.follow e' made links place rest = Files.follow e made links place rest := by
  induction links, place, rest using Files.follow_induction with
  | nil links place => rw [Files.follow, Files.follow]
  | cons links place name rest ih =>
    have hturn := Files.turn_face made links place name rest (e'.at? place)
      (e'.at? (place ++ [name]))
    rw [← h, ← h, Files.turn_face] at hturn
    rw [Files.follow_cons, Files.follow_cons, ← hturn]
    cases hgo : Files.turn made links place name rest (e.at? place) (e.at? (place ++ [name])) with
    | ends outcome => rfl
    | goes links' place' rest' => exact ih links' place' rest' (Files.turn_shorter hgo)

end Alike

end Entry

namespace Files

/-- The same files, whatever the order in which the directories list them. -/
structure Same (f f' : Files) : Prop where
  here : f'.here = f.here
  alike : f.root.Alike f'.root
  names : f.root.wellNamed = true
  names' : f'.root.wellNamed = true

variable {f f' : Files} {settings : Settings} {root : String} {d : Stop}

theorem Same.symm (h : Same f f') : Same f' f := ⟨h.here.symm, h.alike.symm, h.names', h.names⟩

theorem Same.followRemoved_eq (h : Same f f') (made : Bool) (parent rest : List String) :
    followRemoved f'.root made parent rest = followRemoved f.root made parent rest := by
  induction rest with
  | nil => rfl
  | cons name rest ih => simp only [followRemoved, ih, h.alike.follow_eq]

theorem Same.locate_eq (h : Same f f') (made : Bool) (path : String) :
    f'.locate made path = f.locate made path := by
  simp only [locate, h.here, h.alike.follow_eq, h.followRemoved_eq]

/-- A path leads to the same thing. -/
theorem Same.find_face (h : Same f f') (path : String) :
    (f'.find path).map (Prod.map id Entry.face) = (f.find path).map (Prod.map id Entry.face) := by
  unfold find
  rw [h.locate_eq]
  cases f.locate false path with
  | error cause => rfl
  | ok spot =>
    cases spot with
    | orphan => rfl
    | free parent name => rfl
    | found place =>
      have hface := h.alike place
      simp only [bind, Except.bind]
      cases hat : f.root.at? place <;> cases hat' : f'.root.at? place
      all_goals simp_all [Except.map, pure, Except.pure, throw, throwThe, MonadExceptOf.throw]

theorem isDirectory_eq_face (f : Files) (path : String) :
    f.isDirectory path =
      ((f.find path).map (Prod.map id Entry.face)).toOption.any (·.2.isDirectory) := by
  unfold isDirectory
  cases f.find path with
  | error cause => rfl
  | ok x => exact (Entry.isDirectory_face x.2).symm

theorem Same.isDirectory_eq (h : Same f f') (path : String) :
    f'.isDirectory path = f.isDirectory path := by
  rw [isDirectory_eq_face, isDirectory_eq_face, h.find_face]

theorem Same.find_directory (h : Same f f') {path : String} {place : List String} {mode : Mode}
    {es : List (String × Entry)} (hfind : f.find path = .ok (some place, .directory mode es)) :
    ∃ es', f'.find path = .ok (some place, .directory mode es') := by
  have hsame := h.find_face path
  rw [hfind] at hsame
  cases hfind' : f'.find path with
  | error cause =>
    rw [hfind'] at hsame
    cases hsame
  | ok x =>
    rw [hfind'] at hsame
    simp only [Except.map, Except.ok.injEq, Prod.map, id, Prod.mk.injEq] at hsame
    obtain ⟨es', he⟩ := Entry.face_eq_directory_iff.mp hsame.2
    exact ⟨es', by rw [← hsame.1, ← he]⟩

/-- A directory can be listed in both, or there is the same fault. -/
theorem Same.fault?_eq (h : Same f f') {d' : Stop} (hpath : d'.path = d.path) :
    d'.fault? f' = d.fault? f := by
  have hsame := h.find_face d.path
  unfold Stop.fault? list
  rw [hpath]
  cases hfind : f.find d.path with
  | error cause =>
    cases hfind' : f'.find d.path with
    | error cause' =>
      rw [hfind, hfind'] at hsame
      cases hsame
      rfl
    | ok x' =>
      rw [hfind, hfind'] at hsame
      cases hsame
  | ok x =>
    cases hfind' : f'.find d.path with
    | error cause' =>
      rw [hfind, hfind'] at hsame
      cases hsame
    | ok x' =>
      obtain ⟨place, e⟩ := x
      obtain ⟨place', e'⟩ := x'
      rw [hfind, hfind'] at hsame
      simp only [Except.map, Except.ok.injEq, Prod.map, Prod.mk.injEq] at hsame
      cases e with
      | file mode content =>
        obtain rfl := Entry.face_eq_file_iff.mp hsame.2
        rfl
      | link target =>
        obtain rfl := Entry.face_eq_link_iff.mp hsame.2
        rfl
      | directory mode es =>
        obtain ⟨es', rfl⟩ := Entry.face_eq_directory_iff.mp hsame.2
        cases hread : mode.read <;> simp [hread]

theorem Same.countsAsDirectory_eq (h : Same f f') {e e' : Entry} (hface : e'.face = e.face)
    (path : String) : f'.countsAsDirectory path e' = f.countsAsDirectory path e := by
  cases e with
  | file mode content =>
    obtain rfl := Entry.face_eq_file_iff.mp hface
    rfl
  | directory mode es =>
    obtain ⟨es', rfl⟩ := Entry.face_eq_directory_iff.mp hface
    rfl
  | link target =>
    obtain rfl := Entry.face_eq_link_iff.mp hface
    exact h.isDirectory_eq path

/-! ## The same walk -/

/-- What stands in a directory of a walk is what stands below its place. -/
theorem Reached.mem_entries_iff (hnames : f.root.wellNamed = true)
    (h : Reached f settings root d) {name : String} {e : Entry} :
    (name, e) ∈ d.entries ↔ f.root.at? (d.place ++ [name]) = some e := by
  rw [Entry.at?_snoc, h.at? hnames, Option.bind_some,
    Entry.child?_eq_some_iff (h.nodup_names hnames)]

/-- A walk of the same files comes to the same directory, which may list them in another order. -/
theorem Same.reached (h : Same f f') (hd : Reached f settings root d) :
    ∃ es, Reached f' settings root { d with entries := es } := by
  induction hd with
  | start hfind =>
    obtain ⟨es', hfind'⟩ := h.find_directory hfind
    exact ⟨es', .start hfind'⟩
  | enter hd hlist hmem hkept ih =>
    obtain ⟨_, hd'⟩ := ih
    obtain ⟨e', hat', hface⟩ := h.alike.at?_some ((hd.mem_entries_iff h.names).mp hmem)
    obtain ⟨es', rfl⟩ := Entry.face_eq_directory_iff.mp hface
    have hlist' : Stop.listable f' _ = true :=
      (congrArg Option.isNone (h.fault?_eq rfl)).trans hlist
    have hnext := Reached.enter hd' hlist' ((hd'.mem_entries_iff h.names').mpr hat') hkept
    exact ⟨es', hnext⟩

theorem Same.accepts (h : Same f f') {d' : Stop} (hd : Reached f settings root d)
    (hd' : Reached f' settings root d') (hpath : d'.path = d.path) (hplace : d'.place = d.place)
    {name : String} (haccepts : d.Accepts f settings name) : d'.Accepts f' settings name := by
  obtain ⟨e, hmem, hfile, hsource⟩ := haccepts
  obtain ⟨e', hat', hface⟩ := h.alike.at?_some ((hd.mem_entries_iff h.names).mp hmem)
  refine ⟨e', (hd'.mem_entries_iff h.names').mpr (hplace ▸ hat'), ?_, hsource⟩
  rw [hpath, h.countsAsDirectory_eq hface, hfile]

/-- The source files of the directory are the same and come in the same order. -/
theorem Same.sources_eq (h : Same f f') {d' : Stop} (hd : Reached f settings root d)
    (hd' : Reached f' settings root d') (hpath : d'.path = d.path) (hplace : d'.place = d.place) :
    d'.sources f' settings = d.sources f settings := by
  have hnames : f'.sourceNames settings d'.path d'.entries =
      f.sourceNames settings d.path d.entries := by
    refine eq_of_sorted (fun _ _ => String.lt_asymm)
      (Stop.pairwise_sourceNames (hd'.nodup_names h.names'))
      (Stop.pairwise_sourceNames (hd.nodup_names h.names)) ?_
    intro name
    rw [Stop.mem_sourceNames_iff, Stop.mem_sourceNames_iff]
    exact ⟨h.symm.accepts hd' hd hpath.symm hplace.symm, h.accepts hd hd' hpath hplace⟩
  unfold Stop.sources
  rw [hnames, hpath]

/-- What a walk takes from a directory. -/
structure View where
  place : List String
  refusal : Option AnalysisError
  sources : List String

def Stop.view (f : Files) (settings : Settings) (d : Stop) : View :=
  ⟨d.place, d.refusal? f, d.sources f settings⟩

theorem Same.mem_views (h : Same f f') {v : View}
    (hv : v ∈ (f.stops settings root).map (Stop.view f settings)) :
    v ∈ (f'.stops settings root).map (Stop.view f' settings) := by
  obtain ⟨d, hd, rfl⟩ := List.mem_map.mp hv
  have hreached := mem_stops_iff.mp hd
  obtain ⟨es, hreached'⟩ := h.reached hreached
  refine List.mem_map.mpr ⟨_, mem_stops_iff.mpr hreached', ?_⟩
  have hfault : Stop.fault? f' { d with entries := es } = d.fault? f := h.fault?_eq rfl
  unfold Stop.view Stop.refusal?
  rw [h.sources_eq hreached hreached' rfl rfl, hfault]

theorem Same.views_eq (h : Same f f') :
    (f'.stops settings root).map (Stop.view f' settings) =
      (f.stops settings root).map (Stop.view f settings) := by
  refine eq_of_sorted (r := fun v w : View => v.place < w.place) (fun _ _ => List.lt_asymm)
    (List.pairwise_map.mpr (pairwise_stops h.names'))
    (List.pairwise_map.mpr (pairwise_stops h.names)) ?_
  exact fun v => ⟨h.symm.mem_views, h.mem_views⟩

theorem way_of_mem_walked (hnames : f.root.wellNamed = true) {path : String}
    (h : path ∈ f.walked settings root) :
    Path.components path = Path.components root ++ Path.below root path ∧
      ∃ name, Path.below root path = Path.home root path ++ [name] := by
  obtain ⟨d, hd, hpath⟩ := List.mem_flatMap.mp h
  obtain ⟨name, hname, rfl⟩ := List.mem_map.mp hpath
  obtain ⟨e, hmem, _⟩ := Stop.mem_sourceNames_iff.mp hname
  have hreached := mem_stops_iff.mp hd
  have hbelow := hreached.below_join hnames hmem
  obtain ⟨_, _, _, _, _, hcomponents⟩ := hreached.way hnames
  constructor
  · rw [hbelow, Path.components_join (hreached.ne_empty hnames) (hreached.plain_of_mem hnames hmem),
      hcomponents, List.append_assoc]
  · exact ⟨name, by rw [Path.home, hbelow, List.dropLast_concat]⟩

end Files

/-! ## The law -/

namespace Analysis

/-- A walk depends on what it takes from the directories that it comes to. -/
theorem walk_eq_views (f : Files) (settings : Settings) (root : String) :
    walk f settings root =
      let views := (f.stops settings root).map (Files.Stop.view f settings)
      if !f.isDirectory root then .error (.unwalkable root (.noDirectory root))
      else
        match views.findSome? (·.refusal) with
        | some e => .error e
        | none => .ok (views.flatMap (·.sources)) := by
  rw [walk_eq]
  dsimp only
  rw [List.findSome?_map, List.flatMap_map]
  rfl

theorem walk_ok {f : Files} {settings : Settings} {root : String} {paths : List String}
    (h : walk f settings root = .ok paths) : paths = f.walked settings root := by
  rcases walk_cases f settings root with ⟨_, hwalk⟩ | ⟨_, _, _, _, _, hwalk⟩ | ⟨_, _, hwalk⟩
  · cases h.symm.trans hwalk
  · cases h.symm.trans hwalk
  · cases h.symm.trans hwalk
    rfl

theorem walk_eq_of_same {f f' : Files} (h : f.Same f') (settings : Settings) (root : String) :
    walk f' settings root = walk f settings root := by
  rw [walk_eq_views, walk_eq_views, h.isDirectory_eq, h.views_eq]

variable {f : Files}

/-- The files of a walk come in strict order by the ways that lead to them from the root. So those
of one directory stand together, and none of them comes after one that stands further down. When
the directories list what stands in them in any other order, nothing changes, and a walk that
fails does so at the same directory. -/
theorem the_order_of_a_walk_is_canonical (hnames : f.root.wellNamed = true)
    (settings : Settings) (root : String) :
    (∀ paths, walk f settings root = .ok paths →
      (∀ path ∈ paths, Path.components path = Path.components root ++ Path.below root path) ∧
        (paths.map (Path.below root)).Pairwise Path.Before ∧
        (∀ p m q, List.Sublist [p, m, q] paths → Path.home root p = Path.home root q →
          Path.home root m = Path.home root p) ∧
        ∀ p q, List.Sublist [p, q] paths →
          ¬ ∃ name rest, Path.home root p = Path.home root q ++ name :: rest) ∧
      ∀ f' : Files, f'.here = f.here → f.root.Reordered f'.root →
        walk f' settings root = walk f settings root := by
  refine ⟨?_, ?_⟩
  · intro paths hwalk
    obtain rfl := walk_ok hwalk
    have hsorted : ((f.walked settings root).map (Path.below root)).Pairwise Path.Before :=
      Files.pairwise_walked hnames
    have hbefore : ∀ {p q}, List.Sublist [p, q] (f.walked settings root) →
        Path.Before (Path.below root p) (Path.below root q) :=
      List.pairwise_iff_forall_sublist.mp (List.pairwise_map.mp hsorted)
    refine ⟨fun path hpath => (Files.way_of_mem_walked hnames hpath).1, hsorted, ?_, ?_⟩
    · intro p m q hsub hhome
      obtain ⟨_, a, ha⟩ := Files.way_of_mem_walked hnames (hsub.subset (a := p) (by simp))
      obtain ⟨_, b, hb⟩ := Files.way_of_mem_walked hnames (hsub.subset (a := q) (by simp))
      have hpm := hbefore (.trans (by simp) hsub : List.Sublist [p, m] _)
      have hmq := hbefore (.trans (by simp) hsub : List.Sublist [m, q] _)
      rw [ha] at hpm
      rw [hb, ← hhome] at hmq
      obtain ⟨c, hc⟩ := hpm.eq_of_between hmq
      rw [Path.home, hc, List.dropLast_concat]
    · rintro p q hsub ⟨name, rest, hhome⟩
      obtain ⟨_, a, ha⟩ := Files.way_of_mem_walked hnames (hsub.subset (a := p) (by simp))
      obtain ⟨_, b, hb⟩ := Files.way_of_mem_walked hnames (hsub.subset (a := q) (by simp))
      have hpq := hbefore hsub
      rw [ha, hb, hhome, List.append_assoc] at hpq
      exact Path.Before.not_of_below (by simp) hpq
  · intro f' hhere hreordered
    exact walk_eq_of_same
      ⟨hhere, hreordered.alike hnames, hnames, hreordered.wellNamed hnames⟩ settings root

/-- A tree with its directories listed in order. -/
def inOrder : Files where
  root := .directory {}
    [("a", .directory {} [("y.go", brokenFile), ("z.go", brokenFile)]), ("b.go", brokenFile)]

/-- The same tree with its directories listed in reverse. -/
def reversed : Files where
  root := .directory {}
    [("b.go", brokenFile), ("a", .directory {} [("z.go", brokenFile), ("y.go", brokenFile)])]

theorem reordered_reversed : inOrder.root.Reordered reversed.root :=
  .trans (.inside [] [("b.go", brokenFile)] (.listed (.swap _ _ _))) (.listed (.swap _ _ _))

theorem walk_inOrder : walk inOrder {} "/" = .ok ["/b.go", "/a/y.go", "/a/z.go"] := by
  have hpath : Files.Spells "/a" ["a"] := by decide
  have hlist : inOrder.list "/" = .ok inOrder.root.entries :=
    Files.list_of_find inOrder.find_root rfl
  have hlistInner : inOrder.list "/a" = .ok _ :=
    inOrder.list_child hpath rfl rfl rfl rfl
  have hinner : inOrder.sourcesBelow {} "/a"
      (.directory {} [("y.go", brokenFile), ("z.go", brokenFile)]) =
      .ok ["/a/y.go", "/a/z.go"] :=
    inOrder.sourcesBelow_of_files hlistInner (by decide) (by simp [brokenFile])
  have hbelow : inOrder.sourcesOfEntries {} "/" inOrder.root.entries =
      [("a", .ok ["/a/y.go", "/a/z.go"])] := by
    rw [← hinner]
    rfl
  have hone : Files.byName [("a", (.ok ["/a/y.go", "/a/z.go"] : Except Fault (List String)))] =
      [("a", .ok ["/a/y.go", "/a/z.go"])] := Files.byName_of_sorted (List.pairwise_singleton _ _)
  have hown : inOrder.sourceNames {} "/" inOrder.root.entries = ["b.go"] := by
    unfold Files.sourceNames inOrder Entry.entries
    rw [Files.byName_pair (by decide)]
    rfl
  have hsources : inOrder.sources {} "/" = .ok ["/b.go", "/a/y.go", "/a/z.go"] := by
    unfold Files.sources
    rw [inOrder.find_root]
    change inOrder.sourcesBelow {} "/" (.directory {} inOrder.root.entries) = _
    rw [Files.sourcesBelow, hlist]
    simp only [hown, hbelow, hone]
    rfl
  unfold walk
  rw [inOrder.isDirectory_root rfl, hsources]
  rfl

/-- The file of the root comes first though its name does not, whichever way the directories are
listed. -/
theorem a_reversed_listing_gives_the_same_files :
    walk reversed {} "/" = .ok ["/b.go", "/a/y.go", "/a/z.go"] ∧
      ([["b.go"], ["a", "y.go"], ["a", "z.go"]] : List (List String)).Pairwise Path.Before := by
  have hnames : inOrder.root.wellNamed = true := by decide
  obtain ⟨hordered, hsame⟩ := the_order_of_a_walk_is_canonical hnames {} "/"
  have hways : ["/b.go", "/a/y.go", "/a/z.go"].map (Path.below "/") =
      [["b.go"], ["a", "y.go"], ["a", "z.go"]] := by decide
  refine ⟨?_, ?_⟩
  · rw [hsame reversed rfl reordered_reversed, walk_inOrder]
  · rw [← hways]
    exact (hordered _ walk_inOrder).2.1

end Analysis

end SourceAtlas
