-- The files that a walk finds. They are the source files of all directories inside the root, each
-- of them once, and the walk fails exactly when one of these directories cannot be listed. What
-- stands in a directory that is left out, or behind a link, never matters.
import SourceAtlas.Proofs.SourceDirectories

namespace SourceAtlas

/-! ## The order of files -/

namespace Path

/-- The order of files by the ways that lead to them from one directory. At the first name where
two ways part, a file comes before a directory, and names of one kind go by their code points. -/
inductive Before : List String → List String → Prop
  | files {a b : String} : a < b → Before [a] [b]
  | fileFirst {a b c : String} {rest : List String} : a ≠ b → Before [a] (b :: c :: rest)
  | directories {a b c d : String} {as bs : List String} :
    a < b → Before (a :: c :: as) (b :: d :: bs)
  | inside {a : String} {as bs : List String} : Before as bs → Before (a :: as) (a :: bs)

theorem Before.irrefl {way : List String} : ¬ Before way way := by
  intro h
  induction way with
  | nil => cases h
  | cons a as ih =>
    cases h with
    | files hlt => exact String.lt_irrefl a hlt
    | directories hlt => exact String.lt_irrefl a hlt
    | inside h => exact ih h

theorem Before.append_left (dir : List String) {way way' : List String} (h : Before way way') :
    Before (dir ++ way) (dir ++ way') := by
  induction dir with
  | nil => exact h
  | cons name dir ih => exact .inside ih

theorem lt_of_append_lt {dir as bs : List String} (h : dir ++ as < dir ++ bs) : as < bs := by
  induction dir with
  | nil => exact h
  | cons name dir ih =>
    cases h with
    | rel hlt => exact absurd hlt (String.lt_irrefl name)
    | cons h => exact ih h

/-- A directory that comes before another is above it, or the ways to them part at two names. -/
theorem lt_cases {as bs : List String} (h : as < bs) :
    (∃ b rest, bs = as ++ b :: rest) ∨
      ∃ dir a b as' bs', a < b ∧ as = dir ++ a :: as' ∧ bs = dir ++ b :: bs' := by
  induction h with
  | @nil b bs => exact .inl ⟨b, bs, rfl⟩
  | @rel a as b bs hlt => exact .inr ⟨[], a, b, as, bs, hlt, rfl, rfl⟩
  | @cons c as bs _ ih =>
    rcases ih with ⟨b, rest, rfl⟩ | ⟨dir, a, b, as', bs', hlt, rfl, rfl⟩
    · exact .inl ⟨b, rest, rfl⟩
    · exact .inr ⟨c :: dir, a, b, as', bs', hlt, rfl, rfl⟩

/-- Files in two directories of which one is before the other are in that order, unless the file
in the upper directory has the name that leads down to the other. -/
theorem before_of_lt {as bs : List String} {n m : String} (h : as < bs)
    (hname : ∀ b rest, bs = as ++ b :: rest → n ≠ b) : Before (as ++ [n]) (bs ++ [m]) := by
  rcases lt_cases h with ⟨b, rest, rfl⟩ | ⟨dir, a, b, as', bs', hlt, rfl, rfl⟩
  · rw [List.append_assoc]
    apply Before.append_left
    cases rest with
    | nil => exact .fileFirst (hname b [] rfl)
    | cons c rest => exact .fileFirst (hname b (c :: rest) rfl)
  · rw [List.append_assoc, List.append_assoc]
    apply Before.append_left
    cases as' <;> cases bs' <;> exact .directories hlt

end Path

/-! ## Where a directory stands -/

namespace Entry

theorem child?_of_mem {mode : Mode} {es : List (String × Entry)} {name : String} {e : Entry}
    (hnodup : (es.map (·.1)).Nodup) (h : (name, e) ∈ es) :
    (directory mode es).child? name = some e := by
  unfold child?
  induction es with
  | nil => cases h
  | cons x es ih =>
    rw [List.map_cons, List.nodup_cons] at hnodup
    rcases List.mem_cons.mp h with rfl | h
    · simp [entries]
    · have hne : x.1 ≠ name := by
        rintro rfl
        exact hnodup.1 (List.mem_map.mpr ⟨_, h, rfl⟩)
      simpa [entries, hne] using ih hnodup.2 h

theorem child?_eq_some_iff {mode : Mode} {es : List (String × Entry)} {name : String} {e : Entry}
    (hnodup : (es.map (·.1)).Nodup) :
    (directory mode es).child? name = some e ↔ (name, e) ∈ es := by
  constructor
  · intro h
    obtain ⟨x, hx, rfl⟩ := Option.map_eq_some_iff.mp h
    obtain rfl : x.1 = name := by simpa using List.find?_some hx
    exact List.mem_of_find?_eq_some hx
  · exact child?_of_mem hnodup

/-- Only from a directory does a way lead to a directory. -/
theorem isDirectory_of_at? {e : Entry} {names : List String} {mode : Mode}
    {es : List (String × Entry)} (h : e.at? names = some (.directory mode es)) :
    e.isDirectory = true := by
  cases e with
  | directory mode es => rfl
  | file mode content => cases names <;> cases h
  | link target => cases names <;> cases h

end Entry

namespace Files

variable {f : Files} {settings : Settings} {root : String} {d : Stop}

/-- A directory of a walk stands where the walk says, and no link leads there. -/
theorem Reached.at? (hnames : f.root.wellNamed = true) (h : Reached f settings root d) :
    f.root.at? d.place = some (.directory d.mode d.entries) := by
  induction h with
  | start hfind => exact find_ok hfind
  | enter hd _ hmem _ ih =>
    rw [Entry.at?_snoc, ih]
    exact Entry.child?_of_mem (hd.nodup_names hnames) hmem

theorem Reached.below_join (hnames : f.root.wellNamed = true) (h : Reached f settings root d)
    {name : String} {e : Entry} (hmem : (name, e) ∈ d.entries) :
    Path.below root (Path.join d.path name) = Path.below root d.path ++ [name] := by
  obtain ⟨_, _, _, _, _, hcomponents⟩ := h.way hnames
  apply Path.below_eq
  rw [Path.components_join (h.ne_empty hnames) (h.plain_of_mem hnames hmem), hcomponents,
    List.append_assoc]

/-- The ways to the source files of a directory. -/
theorem Reached.ways_sources (hnames : f.root.wellNamed = true) (h : Reached f settings root d) :
    (d.sources f settings).map (Path.below root) =
      (f.sourceNames settings d.path d.entries).map (Path.below root d.path ++ [·]) := by
  unfold Stop.sources
  rw [List.map_map]
  refine List.map_congr_left fun name hname => ?_
  obtain ⟨e, hmem, _⟩ := Stop.mem_sourceNames_iff.mp hname
  exact h.below_join hnames hmem

/-- A source file of a directory does not have the name of a directory in it. -/
theorem Stop.Accepts.ne_of_inner {d' : Stop} {name b : String} {rest : List String}
    (hnames : f.root.wellNamed = true) (hd : Reached f settings root d)
    (hd' : Reached f settings root d') (hname : d.Accepts f settings name)
    (hplace : d'.place = d.place ++ b :: rest) : name ≠ b := by
  rintro rfl
  obtain ⟨e, hmem, hfile, _⟩ := hname
  have hchild : (Entry.directory d.mode d.entries).child? name = some e :=
    Entry.child?_of_mem (hd.nodup_names hnames) hmem
  have hat := hd'.at? hnames
  rw [hplace, Entry.at?_append, hd.at? hnames, Option.bind_some, Entry.at?, hchild,
    Option.bind_some] at hat
  have hdirectory := Entry.isDirectory_of_at? hat
  cases e with
  | directory mode es => cases hfile
  | file mode content => cases hdirectory
  | link target => cases hdirectory

/-- The files of a walk come in their order. -/
theorem pairwise_walked (hnames : f.root.wellNamed = true) :
    ((f.walked settings root).map (Path.below root)).Pairwise Path.Before := by
  have hreached : ∀ d ∈ f.stops settings root, Reached f settings root d :=
    fun d => mem_stops_iff.mp
  unfold walked
  rw [List.map_flatMap, List.pairwise_flatMap]
  constructor
  · intro d hd
    have hsorted : (f.sourceNames settings d.path d.entries).Pairwise (· < ·) :=
      Stop.pairwise_sourceNames ((hreached d hd).nodup_names hnames)
    rw [(hreached d hd).ways_sources hnames, List.pairwise_map]
    exact hsorted.imp fun hlt => (Path.Before.files hlt).append_left _
  · refine (pairwise_stops hnames).imp_of_mem ?_
    intro d d' hd hd' hlt way hway way' hway'
    have hreach := hreached d hd
    have hreach' := hreached d' hd'
    rw [hreach.ways_sources hnames] at hway
    rw [hreach'.ways_sources hnames] at hway'
    obtain ⟨n, hn, rfl⟩ := List.mem_map.mp hway
    obtain ⟨m, _, rfl⟩ := List.mem_map.mp hway'
    -- both places are below the place where the walk started
    obtain ⟨start, e, hfind, hplace, _⟩ := hreach.way hnames
    obtain ⟨start', e', hfind', hplace', _⟩ := hreach'.way hnames
    rw [hfind] at hfind'
    cases hfind'
    refine Path.before_of_lt (Path.lt_of_append_lt (hplace ▸ hplace' ▸ hlt)) ?_
    intro b rest hbelow
    have hinner : d'.place = d.place ++ b :: rest := by
      rw [hplace', hbelow, hplace, List.append_assoc]
    exact (Stop.mem_sourceNames_iff.mp hn).ne_of_inner hnames hreach hreach' hinner

theorem nodup_walked (hnames : f.root.wellNamed = true) : (f.walked settings root).Nodup := by
  refine (List.pairwise_map.mp (pairwise_walked hnames)).imp ?_
  rintro path path' hbefore rfl
  exact Path.Before.irrefl hbefore

/-! ## Inside the root -/

/-- The directory is the root, to which a link may lead and which may have any name, or a real
sub-directory of a directory inside whose name is not left out. Whether it can be listed is
another question. -/
inductive Inside (f : Files) (settings : Settings) (root : String) : Stop → Prop where
  | root {place : List String} {mode : Mode} {es : List (String × Entry)} :
    f.find root = .ok (some place, .directory mode es) →
    Inside f settings root ⟨root, place, mode, es⟩
  | enter {d : Stop} {name : String} {mode : Mode} {es : List (String × Entry)} :
    Inside f settings root d → (name, .directory mode es) ∈ d.entries →
    name ∉ settings.excludedDirs →
    Inside f settings root ⟨Path.join d.path name, d.place ++ [name], mode, es⟩

theorem excludes_eq_false_iff {name : String} :
    settings.excludes name = false ↔ name ∉ settings.excludedDirs := by
  simp [Settings.excludes]

theorem Reached.inside (h : Reached f settings root d) : Inside f settings root d := by
  induction h with
  | start hfind => exact .root hfind
  | enter _ _ hmem hkept ih => exact .enter ih hmem (excludes_eq_false_iff.mp hkept)

/-- A walk comes to a directory inside unless it has met one that it cannot list. -/
theorem Inside.reached_or (h : Inside f settings root d) :
    Reached f settings root d ∨ ∃ d', Reached f settings root d' ∧ ¬ f.CanList d'.path := by
  induction h with
  | root hfind => exact .inl (.start hfind)
  | @enter d name mode es _ hmem hkept ih =>
    rcases ih with hd | hclosed
    · by_cases hlist : f.CanList d.path
      · exact .inl (.enter hd (Stop.listable_iff.mpr hlist) hmem
          (excludes_eq_false_iff.mpr hkept))
      · exact .inr ⟨d, hd, hlist⟩
    · exact .inr hclosed

/-- Where all directories inside can be listed, a walk comes to all of them. -/
theorem reached_iff_inside (h : ∀ d, Inside f settings root d → f.CanList d.path) :
    Reached f settings root d ↔ Inside f settings root d := by
  constructor
  · exact Reached.inside
  · intro hd
    rcases hd.reached_or with hd | ⟨d', hd', hclosed⟩
    · exact hd
    · exact absurd (h d' hd'.inside) hclosed

theorem refusal?_eq_none_iff : d.refusal? f = none ↔ f.CanList d.path := by
  rw [← Stop.listable_iff]
  simp [Stop.refusal?, Stop.listable]

/-- No directory of a walk is refused exactly when all directories inside can be listed. -/
theorem no_refusal_iff :
    (f.stops settings root).findSome? (·.refusal? f) = none ↔
      ∀ d, Inside f settings root d → f.CanList d.path := by
  simp only [List.findSome?_eq_none_iff, mem_stops_iff, refusal?_eq_none_iff]
  constructor
  · intro h d hd
    rcases hd.reached_or with hd | ⟨d', hd', hclosed⟩
    · exact h d hd
    · exact absurd (h d' hd') hclosed
  · exact fun h d hd => h d hd.inside

/-- The way to a directory of a walk has no name that is left out. -/
theorem Reached.kept_of_mem (hnames : f.root.wellNamed = true) (h : Reached f settings root d) :
    ∀ name ∈ Path.below root d.path, name ∉ settings.excludedDirs := by
  induction h with
  | start => simp [Path.below]
  | enter hd _ hmem hkept ih =>
    rw [hd.below_join hnames hmem]
    simpa [or_imp, forall_and, excludes_eq_false_iff.mp hkept] using ih

theorem isSource_iff {name : String} :
    settings.isSource name = true ↔
      settings.sourceSuffix.toList <:+ name.toList ∧
        ¬ settings.testSuffix.toList <:+ name.toList := by
  simp [Settings.isSource, Text.endsWith, ← List.isSuffixOf_iff_suffix]

/-- A link counts as a directory when the whole path leads to one. -/
theorem countsAsDirectory_eq_false_iff {path : String} {e : Entry} :
    f.countsAsDirectory path e = false ↔
      e.isDirectory = false ∧ ∀ target, e = .link target → f.isDirectory path = false := by
  cases e <;> simp [countsAsDirectory, Entry.isDirectory]

end Files

/-! ## The law -/

namespace Analysis

/-- A walk fails at a root that is no directory or at the first directory that it cannot list, and
else it gives what it has found. -/
theorem walk_cases (f : Files) (settings : Settings) (root : String) :
    (f.isDirectory root = false ∧
        walk f settings root = .error (.unwalkable root (.noDirectory root))) ∨
      (∃ d fault, f.Reached settings root d ∧ f.list d.path = .error fault ∧
        ¬ (∀ d', f.Inside settings root d' → f.CanList d'.path) ∧
        walk f settings root = .error (.unwalkable d.path (.fault fault))) ∨
      f.isDirectory root = true ∧ (∀ d, f.Inside settings root d → f.CanList d.path) ∧
        walk f settings root = .ok (f.walked settings root) := by
  rw [walk_eq, ← Files.no_refusal_iff]
  cases f.isDirectory root with
  | false => exact .inl ⟨rfl, rfl⟩
  | true =>
    cases hfirst : (f.stops settings root).findSome? (·.refusal? f) with
    | none => exact .inr (.inr ⟨rfl, rfl, rfl⟩)
    | some e =>
      obtain ⟨d, hd, hrefusal⟩ := List.exists_of_findSome?_eq_some hfirst
      obtain ⟨fault, hfault, rfl⟩ := Option.map_eq_some_iff.mp hrefusal
      exact .inr (.inl ⟨d, fault, Files.mem_stops_iff.mp hd,
        Files.Stop.fault?_eq_some_iff.mp hfault, nofun, rfl⟩)

variable {f : Files}

/-- When the root is a directory and all directories inside can be listed, a walk gives every
entry of theirs that is no directory, nor a link whose path leads to one, and has the name of a
source, each one once, and nothing else. When not, it fails. The directory that it fails at stands
on a way of real directories of which none is left out, so that nothing behind a link or below a
directory that is left out makes it fail. -/
theorem the_walk_finds_exactly_the_source_files (hnames : f.root.wellNamed = true)
    (settings : Settings) (root : String) :
    (f.isDirectory root = true → (∀ d, f.Inside settings root d → f.CanList d.path) →
      ∃ paths, walk f settings root = .ok paths ∧ paths.Nodup ∧
        ∀ path, path ∈ paths ↔ ∃ d name e, f.Inside settings root d ∧ (name, e) ∈ d.entries ∧
          e.isDirectory = false ∧ (∀ target, e = .link target → f.isDirectory path = false) ∧
          settings.sourceSuffix.toList <:+ name.toList ∧
          ¬ settings.testSuffix.toList <:+ name.toList ∧ path = Path.join d.path name) ∧
      (¬ (f.isDirectory root = true ∧ ∀ d, f.Inside settings root d → f.CanList d.path) →
        ∃ path flaw, walk f settings root = .error (.unwalkable path flaw)) ∧
      ∀ path fault, walk f settings root = .error (.unwalkable path (.fault fault)) →
        f.list path = .error fault ∧ ∃ start e mode es, f.find root = .ok (some start, e) ∧
          f.root.at? (start ++ Path.below root path) = some (.directory mode es) ∧
          ∀ name ∈ Path.below root path, name ∉ settings.excludedDirs := by
  refine ⟨?_, ?_, ?_⟩
  · intro hroot hlist
    have hwalk : walk f settings root = .ok (f.walked settings root) := by
      rw [walk_eq, hroot, Files.no_refusal_iff.mpr hlist]
      rfl
    refine ⟨f.walked settings root, hwalk, Files.nodup_walked hnames, ?_⟩
    intro path
    unfold Files.walked Files.Stop.sources
    simp only [List.mem_flatMap, List.mem_map, Files.mem_stops_iff, Files.reached_iff_inside hlist,
      Files.Stop.mem_sourceNames_iff]
    constructor
    · rintro ⟨d, hd, name, ⟨e, hmem, hfile, hsource⟩, rfl⟩
      obtain ⟨hother, hlink⟩ := Files.countsAsDirectory_eq_false_iff.mp hfile
      obtain ⟨hsuffix, htest⟩ := Files.isSource_iff.mp hsource
      exact ⟨d, name, e, hd, hmem, hother, hlink, hsuffix, htest, rfl⟩
    · rintro ⟨d, name, e, hd, hmem, hother, hlink, hsuffix, htest, rfl⟩
      exact ⟨d, hd, name, ⟨e, hmem, Files.countsAsDirectory_eq_false_iff.mpr ⟨hother, hlink⟩,
        Files.isSource_iff.mpr ⟨hsuffix, htest⟩⟩, rfl⟩
  · intro hfault
    rcases walk_cases f settings root with ⟨_, hwalk⟩ | ⟨d, _, _, _, _, hwalk⟩ | ⟨hroot, hlist, _⟩
    · exact ⟨_, _, hwalk⟩
    · exact ⟨_, _, hwalk⟩
    · exact absurd ⟨hroot, hlist⟩ hfault
  · intro path fault h
    rcases walk_cases f settings root with ⟨_, hwalk⟩ | ⟨d, _, hd, hlist, _, hwalk⟩ | ⟨_, _, hwalk⟩
    · cases h.symm.trans hwalk
    · cases h.symm.trans hwalk
      obtain ⟨start, e, hfind, hplace, _⟩ := hd.way hnames
      exact ⟨hlist, start, e, d.mode, d.entries, hfind, hplace ▸ hd.at? hnames,
        hd.kept_of_mem hnames⟩
    · cases h.symm.trans hwalk

/-- A tree in which a directory that is left out may not be read. One link leads to it and another
leads nowhere. -/
def closedAside : Files where
  root := .directory {}
    [("dead.go", .link "gone"), ("lib.go", .link "vendor"),
     ("sub", .directory {} [("b.go", brokenFile), ("b_test.go", brokenFile)]),
     ("vendor", .directory { read := false } [])]

theorem inside_closedAside {d : Files.Stop} (h : closedAside.Inside {} "/" d) :
    d = ⟨"/", [], {}, closedAside.root.entries⟩ ∨
      d = ⟨"/sub", ["sub"], {}, [("b.go", brokenFile), ("b_test.go", brokenFile)]⟩ := by
  induction h with
  | root hfind =>
    rw [closedAside.find_root] at hfind
    cases hfind
    exact .inl rfl
  | enter _ hmem hkept ih =>
    have hjoin : Path.join "/" "sub" = "/sub" := by decide
    rcases ih with rfl | rfl
    · simp only [closedAside, Entry.entries, List.mem_cons, Prod.mk.injEq, reduceCtorEq, and_false,
        Entry.directory.injEq, List.not_mem_nil, or_false, false_or] at hmem
      rcases hmem with ⟨rfl, rfl, rfl⟩ | ⟨rfl, rfl, rfl⟩
      · rw [hjoin]
        exact .inr rfl
      · exact absurd (by decide) hkept
    · simp [brokenFile] at hmem

theorem isDirectory_dead : closedAside.isDirectory "/dead.go" = false := by
  have hpath : Files.Spells "/dead.go" ["dead.go"] := by decide
  have htarget : Files.names "gone" = ["gone"] := by decide
  unfold Files.isDirectory Files.find
  rw [hpath.locate, Files.maxLinks,
    Files.follow_link _ 39 rfl rfl (hpath.proper _ (List.mem_singleton_self _)) rfl, htarget,
    ite_self, List.append_nil, Files.follow_free _ _ rfl rfl (by decide) rfl]
  rfl

theorem isDirectory_lib : closedAside.isDirectory "/lib.go" = true := by
  have hpath : Files.Spells "/lib.go" ["lib.go"] := by decide
  have htarget : Files.names "vendor" = ["vendor"] := by decide
  have hfollow : Files.follow closedAside.root false Files.maxLinks [] ["lib.go"] =
      .ok (.found ["vendor"]) := by
    rw [Files.maxLinks,
      Files.follow_link _ 39 rfl rfl (hpath.proper _ (List.mem_singleton_self _)) rfl, htarget,
      ite_self, List.append_nil, Files.follow_child _ _ rfl rfl (by decide) rfl (by simp),
      Files.follow]
    rfl
  unfold Files.isDirectory
  rw [hpath.find hfollow rfl]
  rfl

/-- The walk does not fail. The link that leads nowhere counts as a file, and the one that leads to
the closed directory does not. -/
theorem a_closed_directory_aside_does_not_matter :
    closedAside.isDirectory "/" = true ∧
      ∃ paths, walk closedAside {} "/" = .ok paths ∧ paths.Nodup ∧
        ∀ path, path ∈ paths ↔ path = "/dead.go" ∨ path = "/sub/b.go" := by
  have hroot : closedAside.isDirectory "/" = true := closedAside.isDirectory_root rfl
  have hlist : ∀ d, closedAside.Inside {} "/" d → closedAside.CanList d.path := by
    have hpath : Files.Spells "/sub" ["sub"] := by decide
    intro d hd
    rcases inside_closedAside hd with rfl | rfl
    · exact ⟨_, _, _, closedAside.find_root, rfl⟩
    · exact ⟨_, _, _, closedAside.find_child hpath rfl rfl rfl (by simp), rfl⟩
  obtain ⟨paths, hwalk, hnodup, hmem⟩ :=
    (the_walk_finds_exactly_the_source_files (by decide) {} "/").1 hroot hlist
  have hdead : Path.join "/" "dead.go" = "/dead.go" := by decide
  have hlib : Path.join "/" "lib.go" = "/lib.go" := by decide
  have hb : Path.join "/sub" "b.go" = "/sub/b.go" := by decide
  refine ⟨hroot, paths, hwalk, hnodup, fun path => (hmem path).trans ⟨?_, ?_⟩⟩
  · rintro ⟨d, name, e, hd, hentry, hfile, hlink, _, htest, rfl⟩
    rcases inside_closedAside hd with rfl | rfl
    · simp only [closedAside, Entry.entries, List.mem_cons, Prod.mk.injEq, List.not_mem_nil,
        or_false] at hentry
      rcases hentry with ⟨rfl, rfl⟩ | ⟨rfl, rfl⟩ | ⟨rfl, rfl⟩ | ⟨rfl, rfl⟩
      · exact .inl hdead
      · have hnone := hlink _ rfl
        rw [hlib, isDirectory_lib] at hnone
        cases hnone
      · cases hfile
      · cases hfile
    · simp only [List.mem_cons, Prod.mk.injEq, List.not_mem_nil, or_false] at hentry
      rcases hentry with ⟨rfl, rfl⟩ | ⟨rfl, rfl⟩
      · exact .inr hb
      · exact absurd (by decide) htest
  · have hinside : closedAside.Inside {} "/" ⟨"/", [], {}, closedAside.root.entries⟩ :=
      .root closedAside.find_root
    rintro (rfl | rfl)
    · exact ⟨_, "dead.go", .link "gone", hinside, by simp [closedAside, Entry.entries], rfl,
        fun _ _ => isDirectory_dead, by decide, by decide, hdead.symm⟩
    · have hjoin : Path.join "/" "sub" = "/sub" := by decide
      have hsub : closedAside.Inside {} "/" ⟨Path.join "/" "sub", ["sub"], {},
          [("b.go", brokenFile), ("b_test.go", brokenFile)]⟩ :=
        hinside.enter (by simp [closedAside, Entry.entries]) (by decide)
      rw [hjoin] at hsub
      exact ⟨_, "b.go", brokenFile, hsub, by simp, rfl, nofun, by decide, by decide, hb.symm⟩

end Analysis

end SourceAtlas
