-- Packages and directories. A package comes out of a run exactly for each directory of the walk
-- that holds a source file: it is called after the way from the start of the walk down to the
-- directory, its title comes from the first source file there, and packages stand in the order
-- in which the walk comes to their directories.
import Mathlib.Data.List.Forall2
import SourceAtlas.Proofs.Merging
import SourceAtlas.Proofs.NormalPaths
import SourceAtlas.Proofs.SharedIds

namespace SourceAtlas

/-! ## The package of a directory -/

/-- What the package of a directory is called, which is found by going down through `names`
from the base. -/
def Package.pathBelow (modulePath : String) : List String → String
  | [] => modulePath
  | names => modulePath ++ "/" ++ String.intercalate "/" names

theorem Package.pathBelow_inj {m : String} {names names' : List String}
    (h : ∀ n ∈ names, Path.Plain n) (h' : ∀ n ∈ names', Path.Plain n)
    (heq : pathBelow m names = pathBelow m names') : names = names' := by
  cases names with
  | nil =>
    cases names' with
    | nil => rfl
    | cons n ns => exact absurd heq.symm (Path.append_slash_ne m _)
  | cons n ns =>
    cases names' with
    | nil => exact absurd heq (Path.append_slash_ne m _)
    | cons n' ns' =>
      have htext : String.intercalate "/" (n :: ns) = String.intercalate "/" (n' :: ns') := by
        simpa [pathBelow] using heq
      rw [← Path.components_intercalate h, htext, Path.components_intercalate h']

namespace Origin

theorem package_below (o : Origin) {dir name : String} {names : List String} (tree : Node)
    (hbase : Path.Normal o.base) (hdir : Path.Normal dir) (hname : Path.Plain name)
    (hnames : ∀ n ∈ names, Path.Plain n)
    (hbelow : Path.components dir = Path.components o.base ++ names) :
    o.package ⟨Path.join dir name, tree⟩ = Package.pathBelow o.modulePath names := by
  have hdirectory : o.directory ⟨Path.join dir name, tree⟩ =
      if names = [] then "." else String.intercalate "/" names := by
    unfold directory
    rw [Path.directory_join hdir.ne_empty hdir.closed hname]
    apply Path.relative_below
    rw [hdir.components_absolute, hbase.components_absolute, hbelow]
  rw [package_eq, hdirectory]
  cases names with
  | nil => rfl
  | cons n ns =>
    have hdot : String.intercalate "/" (n :: ns) ≠ "." := by
      intro heq
      have hcomponents := Path.components_intercalate hnames
      rw [heq] at hcomponents
      cases hcomponents
    simp [hdot, Package.pathBelow]

/-- Where files come in groups that each have a package of their own, the packages are those of
the groups that hold a file, and the first file of a group names its package. -/
theorem packages_of_groups (o : Origin) {δ : Type} {ds : List δ} {group : δ → List SourceFile}
    {path : δ → String} (hpath : ∀ d ∈ ds, ∀ file ∈ group d, o.package file = path d)
    (hnodup : (ds.map path).Nodup) :
    List.Forall₂
      (fun e d => e.1 = Key.package (path d) ∧
        ∃ first, (group d).head? = some first ∧ e.2.name = first.tree.packageName)
      (o.gather (ds.flatMap group)).packages.entries (ds.filter (group · ≠ [])) := by
  have hkeys : (o.gather (ds.flatMap group)).packages.entries.map (·.1) =
      (ds.filter (group · ≠ [])).map fun d => Key.package (path d) := by
    have hkey : ∀ d ∈ ds, ∀ file ∈ group d, Key.package (o.package file) = .package (path d) :=
      fun d hd file hfile => congrArg Key.package (hpath d hd file hfile)
    have hnodup' : (ds.map fun d => Key.package (path d)).Nodup := by
      rw [← Function.comp_def, ← List.map_map]
      exact hnodup.map fun _ _ h => Key.package.inj h
    rw [← eraseDups_flatMap_groups hkey hnodup']
    exact o.keys_packages_gather _
  rw [← List.forall₂_eq_eq_eq, List.forall₂_map_left_iff, List.forall₂_map_right_iff,
    List.forall₂_iff_zip] at hkeys
  refine List.forall₂_iff_zip.mpr ⟨hkeys.1, ?_⟩
  rintro ⟨k, package⟩ d hzip
  obtain ⟨hentry, hd⟩ := List.of_mem_zip hzip
  have hk : k = .package (path d) := hkeys.2 hzip
  subst hk
  -- the entry is what the files of this one group merge into
  have hget := (Table.mem_entries_iff (o.keyed_gather _).packages.nodup _ _).mp hentry
  rw [o.get?_packages_gather] at hget
  unfold filesOf at hget
  rw [filter_flatMap_groups hpath hnodup (List.mem_of_mem_filter hd)] at hget
  obtain ⟨first, hfirst, rfl⟩ := Option.map_eq_some_iff.mp hget
  exact ⟨rfl, first, hfirst, rfl⟩

end Origin

/-- The components of kind `package` are those of the table of packages. -/
theorem Symbols.packages_graph (s : Symbols) :
    s.graph.components.filter (·.entity = .package) =
      s.packages.entries.map fun e => ⟨e.1.id, e.2.name, .package⟩ := by
  have htypes : ∀ kind : TypeKind, kind.entity ≠ .package := by
    intro kind
    cases kind <;> exact nofun
  rw [components_graph]
  unfold components
  simp [List.filter_append, List.filter_map, Function.comp_def, htypes]

/-! ## The way to a directory -/

/-- The names that lead from a directory down to another. -/
def Path.below (base dir : String) : List String :=
  (components dir).drop (components base).length

theorem Path.below_eq {base dir : String} {names : List String}
    (h : components dir = components base ++ names) : below base dir = names := by
  unfold below
  rw [h, List.drop_left]

theorem Entry.plain_of_isName {name : String} (h : isName name = true) : Path.Plain name := by
  unfold isName at h
  simp only [Bool.and_eq_true, bne_iff_ne, Bool.not_eq_true', List.contains_eq_mem,
    decide_eq_false_iff_not] at h
  exact ⟨h.1.1.1.1, h.1.1.1.2, h.1.1.2, h.1.2⟩

namespace Files

variable {f : Files} {settings : Settings} {root : String} {d : Stop}

theorem normal_of_absolute? {path : String} (h : f.absolute? path = some root) :
    Path.Normal root := by
  obtain ⟨p, hp, rfl⟩ := normalized_of_absolute? h
  exact Path.normal_normalize hp

theorem Reached.plain_of_mem (hnames : f.root.wellNamed = true) (h : Reached f settings root d)
    {name : String} {e : Entry} (hmem : (name, e) ∈ d.entries) : Path.Plain name :=
  Entry.plain_of_isName ((Entry.allWellNamed_iff.mp (h.wellNamed hnames)).2 _ hmem).1

theorem Reached.normal (hnames : f.root.wellNamed = true) (hroot : Path.Normal root)
    (h : Reached f settings root d) : Path.Normal d.path := by
  induction h with
  | start => exact hroot
  | enter hd _ hmem _ ih => exact ih.join (hd.plain_of_mem hnames hmem)

theorem Reached.ne_empty (hnames : f.root.wellNamed = true) (h : Reached f settings root d) :
    d.path ≠ "" := by
  induction h with
  | start hfind =>
    rintro rfl
    cases hfind
  | enter hd _ hmem _ ih =>
    have hname := hd.plain_of_mem hnames hmem
    rw [Path.join_plain ih hname]
    split <;> simp [hname.nonempty]

/-- The walk calls a directory after the way on which it came there, and that is where the
directory stands. -/
theorem Reached.way (hnames : f.root.wellNamed = true) (h : Reached f settings root d) :
    ∃ start e, f.find root = .ok (some start, e) ∧ d.place = start ++ Path.below root d.path ∧
      (∀ n ∈ Path.below root d.path, Path.Plain n) ∧
      Path.components d.path = Path.components root ++ Path.below root d.path := by
  induction h with
  | @start place mode es hfind =>
    have hnone : Path.below root root = [] := Path.below_eq (List.append_nil _).symm
    exact ⟨place, _, hfind, by simp [hnone], by simp [hnone], by simp [hnone]⟩
  | @enter d name mode es hd _ hmem _ ih =>
    obtain ⟨start, e, hfind, hplace, hplain, hcomponents⟩ := ih
    have hname := hd.plain_of_mem hnames hmem
    have hjoin : Path.components (Path.join d.path name) =
        Path.components root ++ (Path.below root d.path ++ [name]) := by
      rw [Path.components_join (hd.ne_empty hnames) hname, hcomponents,
        List.append_assoc]
    refine ⟨start, e, hfind, ?_, ?_, ?_⟩
    · rw [Path.below_eq hjoin, hplace, List.append_assoc]
    · rw [Path.below_eq hjoin]
      simpa [or_imp, forall_and, hname] using hplain
    · rw [Path.below_eq hjoin, hjoin]

/-! ## The source files of a directory -/

/-- The name is that of a source file in the directory. -/
def Stop.Accepts (f : Files) (settings : Settings) (d : Stop) (name : String) : Prop :=
  ∃ e, (name, e) ∈ d.entries ∧ f.countsAsDirectory (Path.join d.path name) e = false ∧
    settings.isSource name = true

theorem Stop.mem_sourceNames_iff {name : String} :
    name ∈ f.sourceNames settings d.path d.entries ↔ d.Accepts f settings name := by
  unfold sourceNames Stop.Accepts
  simp [mem_byName]

/-- The names come in strict order. -/
theorem Stop.pairwise_sourceNames (h : (d.entries.map (·.1)).Nodup) :
    (f.sourceNames settings d.path d.entries).Pairwise (· < ·) := by
  unfold sourceNames
  exact List.pairwise_map.mpr ((byName_pairwise h).filter _)

/-- The source files that can be read in the directory itself. -/
def Stop.files (f : Files) (settings : Settings) (d : Stop) : List SourceFile :=
  (d.sources f settings).filterMap f.sourceFile?

theorem sourceFile?_eq_some_iff {path : String} {file : SourceFile} :
    f.sourceFile? path = some file ↔ ∃ content, f.read path = .ok content ∧
      file = ⟨path, content.tree⟩ := by
  unfold sourceFile?
  cases f.read path with
  | error fault => simp [Except.toOption]
  | ok content => simp [Except.toOption, eq_comm]

/-- A file of a directory belongs to the package that is called after the way there. -/
theorem Reached.package_of_mem_files {o : Origin} (hnames : f.root.wellNamed = true)
    (hbase : Path.Normal o.base) (h : Reached f settings o.base d) {file : SourceFile}
    (hfile : file ∈ d.files f settings) :
    o.package file = Package.pathBelow o.modulePath (Path.below o.base d.path) := by
  obtain ⟨path, hpath, hfile⟩ := List.mem_filterMap.mp hfile
  obtain ⟨name, hname, rfl⟩ := List.mem_map.mp hpath
  obtain ⟨content, _, rfl⟩ := sourceFile?_eq_some_iff.mp hfile
  obtain ⟨e, hmem, _⟩ := Stop.mem_sourceNames_iff.mp hname
  obtain ⟨_, _, _, _, hplain, hcomponents⟩ := h.way hnames
  exact o.package_below content.tree hbase (h.normal hnames hbase) (h.plain_of_mem hnames hmem)
    hplain hcomponents

/-- Where all source files can be read, the first file is the one with the least name. -/
theorem Stop.first_file (hnodup : (d.entries.map (·.1)).Nodup)
    (hread : ∀ path ∈ d.sources f settings, ∃ content, f.read path = .ok content)
    {first : SourceFile} (hfirst : (d.files f settings).head? = some first) :
    ∃ name content, d.Accepts f settings name ∧
      (∀ other, d.Accepts f settings other → name ≤ other) ∧
      f.read (Path.join d.path name) = .ok content ∧
      first = ⟨Path.join d.path name, content.tree⟩ := by
  have hsorted : (f.sourceNames settings d.path d.entries).Pairwise (· < ·) :=
    Stop.pairwise_sourceNames hnodup
  have hmem : ∀ name, d.Accepts f settings name →
      name ∈ f.sourceNames settings d.path d.entries := fun name => Stop.mem_sourceNames_iff.mpr
  have haccepts : ∀ name ∈ f.sourceNames settings d.path d.entries, d.Accepts f settings name :=
    fun name => Stop.mem_sourceNames_iff.mp
  unfold Stop.files Stop.sources at hfirst
  unfold Stop.sources at hread
  cases hlist : f.sourceNames settings d.path d.entries with
  | nil =>
    rw [hlist] at hfirst
    cases hfirst
  | cons name names =>
    rw [hlist] at hfirst hread hsorted hmem haccepts
    obtain ⟨content, hcontent⟩ := hread (Path.join d.path name) List.mem_cons_self
    have hfile := sourceFile?_eq_some_iff.mpr ⟨content, hcontent, rfl⟩
    rw [List.map_cons, List.filterMap_cons_some hfile] at hfirst
    cases hfirst
    refine ⟨name, content, haccepts name List.mem_cons_self, ?_, hcontent, rfl⟩
    intro other hother
    rcases List.mem_cons.mp (hmem other hother) with rfl | hlater
    · exact String.le_refl _
    · exact String.not_lt.mp (String.lt_asymm ((List.pairwise_cons.mp hsorted).1 other hlater))

/-- A directory has a file exactly when it holds a source file. -/
theorem Stop.files_ne_nil_iff
    (hread : ∀ path ∈ d.sources f settings, ∃ content, f.read path = .ok content) :
    d.files f settings ≠ [] ↔ ∃ name, d.Accepts f settings name := by
  constructor
  · intro hne
    obtain ⟨file, hfile⟩ := List.exists_mem_of_ne_nil _ hne
    obtain ⟨path, hpath, _⟩ := List.mem_filterMap.mp hfile
    obtain ⟨name, hname, _⟩ := List.mem_map.mp hpath
    exact ⟨name, Stop.mem_sourceNames_iff.mp hname⟩
  · rintro ⟨name, hname⟩
    have hpath := List.mem_map_of_mem (f := Path.join d.path) (Stop.mem_sourceNames_iff.mpr hname)
    obtain ⟨content, hcontent⟩ := hread _ hpath
    have hfile := sourceFile?_eq_some_iff.mpr ⟨content, hcontent, rfl⟩
    exact List.ne_nil_of_mem (List.mem_filterMap.mpr ⟨_, hpath, hfile⟩)

/-- Directories that stand at different places give packages of different names. -/
theorem nodup_package_paths (settings : Settings) (root m : String)
    (hnames : f.root.wellNamed = true) :
    ((f.stops settings root).map fun d =>
      Package.pathBelow m (Path.below root d.path)).Nodup := by
  rw [List.Nodup, List.pairwise_map]
  refine (pairwise_stops hnames).imp_of_mem ?_
  intro d d' hd hd' hlt heq
  obtain ⟨start, e, hfind, hplace, hplain, _⟩ := (mem_stops_iff.mp hd).way hnames
  obtain ⟨start', e', hfind', hplace', hplain', _⟩ := (mem_stops_iff.mp hd').way hnames
  rw [hfind] at hfind'
  cases hfind'
  rw [hplace, hplace', Package.pathBelow_inj hplain hplain' heq] at hlt
  exact List.lt_irrefl _ hlt

end Files

/-! ## The law -/

namespace Analysis

variable {f : Files} {settings : Settings} {ready : Bool} {o : Origin} {files : List SourceFile}

/-- A file that a run takes in could be read. -/
theorem Taken.sourceFile? (h : Taken f settings o files) {file : SourceFile}
    (hfile : file ∈ files) : f.sourceFile? file.path = some file := by
  have hread := h.read file hfile
  unfold Source.read at hread
  cases hcontent : f.read file.path with
  | error fault =>
    rw [hcontent] at hread
    dsimp only at hread
    split at hread <;> cases hread
  | ok content =>
    rw [hcontent] at hread
    dsimp only at hread
    split at hread
    · cases hread
    · obtain ⟨_, _, hread⟩ := Traced.bind_ok hread
      unfold Source.sound at hread
      by_cases hfault : content.tree.hasFault = true
      · rw [if_pos hfault] at hread
        cases hread
      · rw [if_neg hfault] at hread
        have htree : content.tree = file.tree := Except.ok.inj hread
        exact Files.sourceFile?_eq_some_iff.mpr ⟨content, hcontent, by rw [htree]⟩

/-- A run takes in the files of the directories of its walk, one directory after the other. -/
theorem Taken.files_eq (h : Taken f settings o files) :
    files = (f.stops settings o.base).flatMap (·.files f settings) ∧
      ∀ d ∈ f.stops settings o.base, ∀ path ∈ d.sources f settings,
        ∃ content, f.read path = .ok content := by
  have hwalked : f.walked settings o.base = files.map (·.path) := by
    have hwalk := h.walked
    rw [walk_eq] at hwalk
    split at hwalk
    · cases hwalk
    · split at hwalk
      · cases hwalk
      · exact Except.ok.inj hwalk
  constructor
  · calc files = files.filterMap some := List.filterMap_some.symm
      _ = files.filterMap fun file => f.sourceFile? file.path :=
        List.filterMap_congr fun file hfile => (h.sourceFile? hfile).symm
      _ = (f.walked settings o.base).filterMap f.sourceFile? := by
        rw [hwalked, List.filterMap_map]
        rfl
      _ = (f.stops settings o.base).flatMap (·.files f settings) := List.filterMap_flatMap
  · intro d hd path hpath
    have hmem : path ∈ f.walked settings o.base := List.mem_flatMap.mpr ⟨d, hd, hpath⟩
    rw [hwalked] at hmem
    obtain ⟨file, hfile, rfl⟩ := List.mem_map.mp hmem
    obtain ⟨content, hcontent, _⟩ := Files.sourceFile?_eq_some_iff.mp (h.sourceFile? hfile)
    exact ⟨content, hcontent⟩

end Analysis

end SourceAtlas
