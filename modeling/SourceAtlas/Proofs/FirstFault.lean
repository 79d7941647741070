-- How a run fails. Whatever the tree holds, a run asks one thing after the other: whether the
-- language is known, whether each directory of the walk can be listed, and whether each
-- source file can be read, has a tree without an error and has text where text is asked for. The
-- first no is all that comes out; without one, the graph of all the files does.
import Mathlib.Data.List.DropRight
import SourceAtlas.Proofs.AskedTexts
import SourceAtlas.Proofs.WalkOrder

namespace SourceAtlas

/-! ## Paths from the root -/

namespace Path

theorem isAbsolute_iff {p : String} : isAbsolute p = true ↔ ∃ cs, p.toList = '/' :: cs := by
  unfold isAbsolute Text.startsWith
  rw [List.isPrefixOf_iff_prefix]
  change ['/'] <+: p.toList ↔ _
  constructor
  · rintro ⟨cs, h⟩
    exact ⟨cs, h.symm⟩
  · rintro ⟨cs, h⟩
    exact ⟨cs, h.symm⟩

theorem isAbsolute_append {p : String} (h : isAbsolute p = true) (q : String) :
    isAbsolute (p ++ q) = true := by
  obtain ⟨cs, hp⟩ := isAbsolute_iff.mp h
  exact isAbsolute_iff.mpr ⟨cs ++ q.toList, by rw [String.toList_append, hp, List.cons_append]⟩

/-- A beginning of an absolute path, unless it is empty, is absolute. -/
theorem isAbsolute_of_begins {p q : String} (h : isAbsolute p = true)
    (hbegins : q.toList <+: p.toList) (hne : q.toList ≠ []) : isAbsolute q = true := by
  obtain ⟨cs, hp⟩ := isAbsolute_iff.mp h
  rw [hp] at hbegins
  cases hq : q.toList with
  | nil => exact absurd hq hne
  | cons c ds =>
    rw [hq] at hbegins
    obtain ⟨rfl, _⟩ := List.cons_prefix_cons.mp hbegins
    exact isAbsolute_iff.mpr ⟨ds, hq⟩

theorem isAbsolute_join {dir : String} (h : isAbsolute dir = true) (name : String) :
    isAbsolute (join dir name) = true := by
  unfold join
  split
  · assumption
  · split
    · exact isAbsolute_append h name
    · exact isAbsolute_append (isAbsolute_append h "/") name

theorem isAbsolute_normalize {p : String} (h : isAbsolute p = true) :
    isAbsolute (normalize p) = true := by
  have hstart : isAbsolute (leadingSlashes p) = true := by
    unfold leadingSlashes
    split
    · rfl
    · split
      · rfl
      · rw [if_pos (show Text.startsWith p "/" = true from h)]
        rfl
  have htext := isAbsolute_append hstart
    (String.intercalate "/"
      ((components p).foldl (pushComponent (leadingSlashes p != "")) []).reverse)
  unfold normalize
  dsimp only
  split
  · rename_i hempty
    rw [eq_of_beq hempty] at htext
    cases htext
  · exact htext

theorem isAbsolute_directory {p : String} (h : isAbsolute p = true) :
    isAbsolute (directory p) = true := by
  let head := p.toList.rdropWhile (· != '/')
  have hbegins : head <+: p.toList := List.rdropWhile_prefix _ _
  have hhead : head ≠ [] := by
    obtain ⟨cs, hp⟩ := isAbsolute_iff.mp h
    intro hnil
    have hslash := List.rdropWhile_eq_nil_iff.mp hnil '/' (by simp [hp])
    cases hslash
  change isAbsolute (if head.all (· == '/') then String.ofList head
    else String.ofList (head.rdropWhile (· == '/'))) = true
  split
  · exact isAbsolute_of_begins h (by rwa [String.toList_ofList]) (by rwa [String.toList_ofList])
  · rename_i hall
    apply isAbsolute_of_begins h
    · rw [String.toList_ofList]
      exact (List.rdropWhile_prefix _ _).trans hbegins
    · rw [String.toList_ofList]
      intro hnil
      exact hall (List.all_eq_true.mpr (List.rdropWhile_eq_nil_iff.mp hnil))

theorem nul_not_mem_join {dir name : String} (hdir : '\x00' ∉ dir.toList)
    (hname : '\x00' ∉ name.toList) : '\x00' ∉ (join dir name).toList := by
  unfold join
  split
  · exact hname
  · split
    · simp [hdir, hname]
    · simp [hdir, hname]

end Path

/-! ## Paths with a NUL -/

namespace Files

variable {f : Files}

/-- A path seen from the root is in its shortest form. -/
theorem normalized_of_absolute? {path root : String} (h : f.absolute? path = some root) :
    ∃ p, Path.isAbsolute p = true ∧ root = Path.normalize p := by
  unfold absolute? at h
  split at h
  · rename_i here hhere
    have habsolute : Path.isAbsolute here = true := by
      unfold hereText at hhere
      split at hhere
      · cases hhere
        exact Path.isAbsolute_append rfl _
      · cases hhere
    cases h
    unfold Path.absolute
    split
    · exact ⟨path, ‹_›, rfl⟩
    · exact ⟨Path.join here path, Path.isAbsolute_join habsolute path, rfl⟩
  · split at h
    · cases h
      exact ⟨path, ‹_›, rfl⟩
    · cases h

theorem isAbsolute_of_absolute? {path root : String} (h : f.absolute? path = some root) :
    Path.isAbsolute root = true := by
  obtain ⟨p, hp, rfl⟩ := normalized_of_absolute? h
  exact Path.isAbsolute_normalize hp

theorem absolute?_of_isAbsolute {path : String} (h : Path.isAbsolute path = true) :
    ∃ root, f.absolute? path = some root := by
  unfold absolute?
  split
  · exact ⟨_, rfl⟩
  · exact ⟨_, if_pos h⟩

theorem follow_ne_embeddedNul (root : Entry) (made : Bool) (links : Nat)
    (place rest : List String) : follow root made links place rest ≠ .error .embeddedNul := by
  fun_induction follow root made links place rest <;> simp_all

theorem followRemoved_ne_embeddedNul (root : Entry) (made : Bool) (parent rest : List String) :
    followRemoved root made parent rest ≠ .error .embeddedNul := by
  fun_induction followRemoved root made parent rest <;> simp_all [follow_ne_embeddedNul]

theorem locate_ne_embeddedNul {made : Bool} {path : String} (h : '\x00' ∉ path.toList) :
    f.locate made path ≠ .error .embeddedNul := by
  unfold locate
  rw [if_neg (by simpa using h)]
  split
  · exact nofun
  · split
    · exact nofun
    · split
      · exact follow_ne_embeddedNul _ _ _ _ _
      · split
        · exact follow_ne_embeddedNul _ _ _ _ _
        · exact followRemoved_ne_embeddedNul _ _ _ _

/-- A path is refused for its NUL exactly when it has one. -/
theorem find_embeddedNul_iff {path : String} :
    f.find path = .error .embeddedNul ↔ '\x00' ∈ path.toList := by
  constructor
  · intro h
    by_contra hnul
    unfold find at h
    cases hspot : f.locate false path with
    | error cause =>
      rw [hspot] at h
      cases h
      exact locate_ne_embeddedNul hnul hspot
    | ok spot =>
      rw [hspot] at h
      simp only [bind, Except.bind] at h
      split at h
      · cases h
      · cases h
      · split at h
        · cases h
        · cases h
  · intro h
    unfold find locate
    rw [if_pos (by simpa using h)]
    rfl

theorem read_of_nul {path : String} (h : '\x00' ∈ path.toList) :
    f.read path = .error ⟨.embeddedNul, path⟩ := by
  unfold read
  rw [find_embeddedNul_iff.mpr h]

theorem cause_of_read {path : String} {fault : Fault} (h : '\x00' ∉ path.toList)
    (hread : f.read path = .error fault) : fault.cause ≠ .embeddedNul := by
  unfold read at hread
  split at hread
  · rename_i cause hfind
    cases hread
    rintro rfl
    exact h (find_embeddedNul_iff.mp hfind)
  · split at hread
    · cases hread
    · cases hread
      exact nofun
  · cases hread
    dsimp only
    split <;> exact nofun
  · cases hread
    exact nofun

/-! ## The files of a walk -/

/-- The error that a directory of a walk is refused with, if it cannot be listed. -/
def Stop.refusal? (f : Files) (d : Stop) : Option AnalysisError :=
  (d.fault? f).map fun fault => .unwalkable d.path (.fault fault)

/-- The source files of all directories that a walk from `root` comes to. -/
def walked (f : Files) (settings : Settings) (root : String) : List String :=
  (f.stops settings root).flatMap (·.sources f settings)

variable {settings : Settings} {root : String}

/-- A fault in listing a directory names the directory. -/
theorem path_of_list {path : String} {fault : Fault} (h : f.list path = .error fault) :
    fault.path = some path := by
  unfold list at h
  split at h
  · cases h
    rfl
  · split at h
    · cases h
    · cases h
      rfl
  · cases h
    rfl

theorem findSome?_refusal? (root : String) (ds : List Stop) :
    ds.findSome? (·.refusal? f) =
      (ds.findSome? (·.fault? f)).map fun fault =>
        .unwalkable (fault.path.getD root) (.fault fault) := by
  rw [List.map_findSome?]
  congr 1
  funext d
  cases hfault : d.fault? f with
  | none => simp [Stop.refusal?, hfault]
  | some fault =>
    simp [Stop.refusal?, hfault, path_of_list (Stop.fault?_eq_some_iff.mp hfault)]

/-- Without a place there is only the current directory after it was removed. -/
theorem find_orphan {path : String} {e : Entry} (h : f.find path = .ok (none, e)) :
    e = .emptyDirectory := by
  unfold find at h
  cases hspot : f.locate false path with
  | error cause =>
    rw [hspot] at h
    cases h
  | ok spot =>
    rw [hspot] at h
    simp only [bind, Except.bind] at h
    split at h
    · cases h
      rfl
    · cases h
    · split at h
      · cases h
      · cases h

theorem sources_eq (h : f.isDirectory root = true) :
    f.sources settings root = outcomeOf f settings (f.stops settings root) := by
  unfold isDirectory at h
  unfold sources stops
  cases hfind : f.find root with
  | error cause =>
    rw [hfind] at h
    cases h
  | ok x =>
    obtain ⟨place, e⟩ := x
    rw [hfind] at h
    cases e with
    | file mode content => cases h
    | link target => cases h
    | directory mode es =>
      cases place with
      | none =>
        cases find_orphan hfind
        have hlist : f.list root = .ok [] := list_of_find hfind rfl
        dsimp only
        rw [sourcesBelow, hlist]
        simp [sourceNames, sourcesOfEntries, byName, chain, outcomeOf, Except.map]
      | some place => exact found_eq ⟨root, place, mode, es⟩

theorem mem_of_mem_sourceNames {path name : String} {es : List (String × Entry)}
    (h : name ∈ f.sourceNames settings path es) : name ∈ es.map (·.1) := by
  obtain ⟨x, hx, rfl⟩ := List.mem_map.mp h
  exact List.mem_map_of_mem (mem_byName.mp (List.mem_filter.mp hx).1)

theorem Reached.path_plain {d : Stop} (hnames : f.root.wellNamed = true)
    (h : Reached f settings root d) : '\x00' ∉ d.path.toList := by
  induction h with
  | start hfind =>
    intro hnul
    rw [find_embeddedNul_iff.mpr hnul] at hfind
    cases hfind
  | enter hd _ hmem _ ih =>
    have hname := ((Entry.allWellNamed_iff.mp (hd.wellNamed hnames)).2 _ hmem).1
    exact Path.nul_not_mem_join ih (Entry.nul_not_mem_of_isName hname)

theorem Reached.isAbsolute {d : Stop} (hroot : Path.isAbsolute root = true)
    (h : Reached f settings root d) : Path.isAbsolute d.path = true := by
  induction h with
  | start => exact hroot
  | enter _ _ _ _ ih => exact Path.isAbsolute_join ih _

/-- The paths that a walk gives can be asked for. -/
theorem walked_proper (hnames : f.root.wellNamed = true) (hroot : Path.isAbsolute root = true)
    {path : String} (h : path ∈ f.walked settings root) :
    Path.isAbsolute path = true ∧ '\x00' ∉ path.toList := by
  obtain ⟨d, hd, hpath⟩ := List.mem_flatMap.mp h
  have hreached := mem_stops_iff.mp hd
  obtain ⟨name, hname, rfl⟩ := List.mem_map.mp hpath
  obtain ⟨x, hx, rfl⟩ := List.mem_map.mp (mem_of_mem_sourceNames hname)
  have hx := ((Entry.allWellNamed_iff.mp (hreached.wellNamed hnames)).2 x hx).1
  exact ⟨Path.isAbsolute_join (hreached.isAbsolute hroot) _,
    Path.nul_not_mem_join (hreached.path_plain hnames) (Entry.nul_not_mem_of_isName hx)⟩

/-! ## What is wrong with a source file -/

/-- What a source file ends a run with, if it does: it cannot be read, its tree has an error, or
it has no text where text is asked for. -/
def badSource? (f : Files) (path : String) : Option Failure :=
  match f.read path with
  | .error fault => some (.analysis (.badSource path (.unreadable fault)))
  | .ok content =>
    if content.tree.hasFault then
      some (.analysis (.badSource path (.brokenAt content.tree.faultPosition)))
    else if content.tree.Garbled then some .undecodable
    else none

/-- The source file at a path, if it can be read. -/
def sourceFile? (f : Files) (path : String) : Option SourceFile :=
  (f.read path).toOption.map fun content => ⟨path, content.tree⟩

end Files

namespace Source

variable {f : Files} {language : String} {path : String}

theorem outcome_read_of_fault (ready : Bool) {fault : Fault} (hnul : '\x00' ∉ path.toList)
    (h : f.read path = .error fault) :
    (read f language ready path).outcome =
      .error (.analysis (.badSource path (.unreadable fault))) := by
  unfold read
  rw [h]
  dsimp only
  rw [if_neg (Files.cause_of_read hnul h)]
  rfl

end Source

/-! ## One file after the other -/

namespace Analysis

variable {f : Files} {settings : Settings} {ready : Bool}

/-- A file is entered unless something is wrong with it. -/
theorem outcome_addSource_eq {s : Symbols} {path : String}
    (hlanguage : languages.contains settings.language = true)
    (hbase : Path.isAbsolute s.base = true) (hpath : Path.isAbsolute path = true)
    (hnul : '\x00' ∉ path.toList) :
    (∃ failure, f.badSource? path = some failure ∧
        (addSource f settings ready s path).outcome = .error failure) ∨
      ∃ file, f.badSource? path = none ∧ f.sourceFile? path = some file ∧
        (addSource f settings ready s path).outcome =
          .ok (s.addFile (f.hereText.getD "/") file) := by
  obtain ⟨_, hbase⟩ := f.absolute?_of_isAbsolute hbase
  obtain ⟨_, hdirectory⟩ := f.absolute?_of_isAbsolute (Path.isAbsolute_directory hpath)
  unfold Files.badSource? Files.sourceFile? addSource
  rw [Traced.outcome_bind_ok rfl]
  cases hread : f.read path with
  | error fault =>
    refine .inl ⟨_, rfl, ?_⟩
    exact Traced.outcome_bind_error (Source.outcome_read_of_fault ready hnul hread)
  | ok content =>
    have hcontent := Source.outcome_read_of_content ready hread hlanguage
    unfold Source.sound at hcontent
    dsimp only
    by_cases hfault : content.tree.hasFault = true
    · rw [if_pos hfault] at hcontent ⊢
      exact .inl ⟨_, rfl, Traced.outcome_bind_error hcontent⟩
    · rw [if_neg hfault] at hcontent ⊢
      have htake : (s.take f ⟨path, content.tree⟩).outcome = _ :=
        Symbols.outcome_take hbase hdirectory
      rw [Traced.outcome_bind_ok hcontent, htake]
      by_cases hgarbled : content.tree.Garbled
      · refine .inl ⟨.undecodable, if_pos hgarbled, ?_⟩
        rw [Node.isReadable_eq_false_iff.mpr hgarbled]
        rfl
      · refine .inr ⟨⟨path, content.tree⟩, if_neg hgarbled, rfl, if_pos ?_⟩
        simpa [← Node.isReadable_eq_false_iff] using hgarbled

/-- Files are entered up to the first that has to be refused. -/
theorem outcome_addSources_eq {s : Symbols} {paths : List String}
    (hlanguage : languages.contains settings.language = true)
    (hbase : Path.isAbsolute s.base = true)
    (hpaths : ∀ path ∈ paths, Path.isAbsolute path = true ∧ '\x00' ∉ path.toList) :
    (addSources f settings ready s paths).outcome =
      match paths.findSome? f.badSource? with
      | some failure => .error failure
      | none => .ok ((paths.filterMap f.sourceFile?).foldl
          (fun s file => s.addFile (f.hereText.getD "/") file) s) := by
  induction paths generalizing ready s with
  | nil => rfl
  | cons path paths ih =>
    obtain ⟨⟨habsolute, hnul⟩, hrest⟩ := List.forall_mem_cons.mp hpaths
    rw [addSources]
    rcases outcome_addSource_eq hlanguage hbase habsolute hnul with
      ⟨failure, hbad, hadd⟩ | ⟨file, hsound, hfile, hadd⟩
    · rw [List.findSome?_cons, hbad]
      exact Traced.outcome_bind_error hadd
    · rw [Traced.outcome_bind_ok hadd, ih (by rwa [Symbols.base_addFile]) hrest,
        List.findSome?_cons, hsound, List.filterMap_cons_some hfile, List.foldl_cons]

end Analysis

/-! ## The path of the module -/

namespace ModulePath

variable {f : Files} {settings : Settings} {root : String}

/-- The path that the module at `root` gives itself, or nothing without a descriptor. -/
def declared (f : Files) (root : String) (settings : Settings) : String :=
  match f.read (descriptor root settings) with
  | .ok content => (content.text?.bind ofText?).getD ""
  | .error _ => ""

theorem detect_of_nul (h : '\x00' ∈ (descriptor root settings).toList) :
    (detect f root settings).outcome =
      .error (.fault ⟨.embeddedNul, descriptor root settings⟩) := by
  unfold detect
  rw [Files.read_of_nul h]
  rfl

theorem detect_of_plain (h : '\x00' ∉ (descriptor root settings).toList)
    (htext : ∀ content, f.read (descriptor root settings) = .ok content → content.text? ≠ none) :
    (detect f root settings).outcome = .ok (declared f root settings) := by
  unfold detect declared
  cases hread : f.read (descriptor root settings) with
  | error fault =>
    dsimp only
    rw [if_neg (Files.cause_of_read h hread)]
    rfl
  | ok content =>
    obtain ⟨text, hcontent⟩ := Option.ne_none_iff_exists'.mp (htext content hread)
    simp only [hcontent, Option.bind_some]
    cases ofText? text with
    | none => rfl
    | some path => rfl

end ModulePath

/-! ## The whole run -/

namespace Analysis

variable {f : Files} {settings : Settings} {ready : Bool} {root : String}

/-- What a run comes to when the language is known and the path of the module can be asked
for: the first directory that cannot be listed, or else the first source file that something is
wrong with, or else the graph of all of them. -/
def verdict (f : Files) (settings : Settings) (root : String) : Except Failure Graph :=
  if !f.isDirectory root then .error (.analysis (.unwalkable root (.noDirectory root)))
  else
    match (f.stops settings root).findSome? (·.refusal? f) with
    | some e => .error (.analysis e)
    | none =>
      match (f.walked settings root).findSome? f.badSource? with
      | some failure => .error failure
      | none =>
        let o : Origin := ⟨f.hereText.getD "/", root, ModulePath.declared f root settings⟩
        .ok (o.gather ((f.walked settings root).filterMap f.sourceFile?)).graph

theorem walk_eq :
    walk f settings root =
      if !f.isDirectory root then .error (.unwalkable root (.noDirectory root))
      else
        match (f.stops settings root).findSome? (·.refusal? f) with
        | some e => .error e
        | none => .ok (f.walked settings root) := by
  unfold walk
  cases hdirectory : f.isDirectory root with
  | false => rfl
  | true =>
    rw [Files.sources_eq hdirectory, Files.findSome?_refusal? root]
    unfold Files.outcomeOf
    cases (f.stops settings root).findSome? (·.fault? f) with
    | some fault => rfl
    | none => rfl

theorem outcome_collect (hnames : f.root.wellNamed = true) (hroot : Path.isAbsolute root = true)
    (hlanguage : languages.contains settings.language = true)
    (hmodule : (ModulePath.detect f root settings).outcome =
      .ok (ModulePath.declared f root settings)) :
    (collect f settings ready root).outcome.map Symbols.graph = verdict f settings root := by
  have hproper : ∀ path ∈ f.walked settings root,
      Path.isAbsolute path = true ∧ '\x00' ∉ path.toList :=
    fun path hpath => Files.walked_proper hnames hroot hpath
  unfold collect verdict
  generalize ModulePath.declared f root settings = modulePath at hmodule ⊢
  rw [Traced.outcome_bind_ok hmodule, walk_eq]
  cases f.isDirectory root with
  | false => rfl
  | true =>
    simp only [Bool.not_true, Bool.false_eq_true, if_false]
    cases (f.stops settings root).findSome? (·.refusal? f) with
    | some e => rfl
    | none =>
      let s : Symbols := { base := root, modulePath }
      have hadd : (addSources f settings ready s (f.walked settings root)).outcome = _ :=
        outcome_addSources_eq hlanguage hroot hproper
      dsimp only
      cases hbad : (f.walked settings root).findSome? f.badSource? with
      | some failure =>
        rw [hbad] at hadd
        rw [Traced.outcome_bind_error hadd]
        rfl
      | none =>
        rw [hbad] at hadd
        rw [Traced.outcome_bind_ok hadd]
        rfl

theorem outcome_graphAt (hlanguage : languages.contains settings.language = true) :
    (graphAt f ready root settings).outcome =
      (collect f settings ready root).outcome.map Symbols.graph := by
  unfold graphAt
  rw [hlanguage, Bool.not_true, if_neg Bool.false_ne_true]
  cases hcollect : (collect f settings ready root).outcome with
  | error e => exact Traced.outcome_bind_error hcollect
  | ok s =>
    rw [Traced.outcome_bind_ok hcollect]
    rfl

/-- A run whose settings are there fails for the language before it looks at the tree, for
the first directory of the walk that cannot be listed before it opens a source file, and for
the first source file that something is wrong with before it has a graph. Two ways to fail are no
errors of the analysis: a descriptor whose path has a NUL, which no tree can hold, and a source
file without text where text is asked for. -/
theorem a_run_fails_at_its_first_fault {path : String} {language : Option String}
    {given : Option Settings} (hnames : f.root.wellNamed = true)
    (hroot : f.absolute? path = some root)
    (hsettings : (settingsFor f root language given).outcome = .ok settings)
    (hdescriptor : ∀ content,
      f.read (ModulePath.descriptor root settings) = .ok content → content.text? ≠ none) :
    (run f ready path language given).outcome =
        (if !languages.contains settings.language then
          .error (.analysis (.unsupported settings.language))
        else if '\x00' ∈ (ModulePath.descriptor root settings).toList then
          .error (.fault ⟨.embeddedNul, ModulePath.descriptor root settings⟩)
        else verdict f settings root) ∧
      (∀ d, d ∈ f.stops settings root ↔ f.Reached settings root d) ∧
      (f.stops settings root).Pairwise fun d d' => d.place < d'.place := by
  refine ⟨?_, fun d => Files.mem_stops_iff, Files.pairwise_stops hnames⟩
  have hrun : (run f ready path language given).outcome =
      (graphAt f ready root settings).outcome := by
    unfold run
    rw [hroot]
    exact Traced.outcome_bind_ok hsettings
  rw [hrun]
  split
  · rename_i hlanguage
    unfold graphAt
    rw [if_pos hlanguage]
    rfl
  · rename_i hlanguage
    have hlanguage : languages.contains settings.language = true := by simpa using hlanguage
    rw [outcome_graphAt hlanguage]
    split
    · rename_i hnul
      unfold collect
      rw [Traced.outcome_bind_error (ModulePath.detect_of_nul hnul)]
      rfl
    · rename_i hnul
      exact outcome_collect hnames (Files.isAbsolute_of_absolute? hroot) hlanguage
        (ModulePath.detect_of_plain hnul hdescriptor)

/-- A source file whose tree has an error. -/
def brokenFile : Entry := .file {} (.parsed (.mk { kind := "source_file", faulty := true } []))

/-- A broken source file, and behind it a directory that may not be read. -/
def closedBehindBroken : Files where
  root := .directory {} [("a.go", brokenFile), ("z", .directory { read := false } [])]

/-- A source file with a byte in the path of its import that is no text. -/
def garbledFile : Entry :=
  .file {} (.bytes ((("package a\nimport \"".toUTF8.push 0xff).append "\"\n".toUTF8)))

/-- Such a file, and behind it a broken one. -/
def garbledBeforeBroken : Files where
  root := .directory {} [("a.go", garbledFile), ("b.go", brokenFile)]

theorem list_closedBehindBroken :
    closedBehindBroken.list "/" = .ok closedBehindBroken.root.entries ∧
      closedBehindBroken.list "/z" = .error ⟨.denied, "/z"⟩ := by
  have hpath : Files.Spells "/z" ["z"] := by decide
  have hfind : closedBehindBroken.find "/z" = .ok (some ["z"], .directory { read := false } []) :=
    closedBehindBroken.find_child hpath rfl rfl rfl (by simp)
  refine ⟨Files.list_of_find closedBehindBroken.find_root rfl, ?_⟩
  unfold Files.list
  rw [hfind]
  rfl

theorem stops_closedBehindBroken :
    closedBehindBroken.stops {} "/" =
      [⟨"/", [], {}, closedBehindBroken.root.entries⟩, ⟨"/z", ["z"], { read := false }, []⟩] := by
  have hjoin : Path.join "/" "z" = "/z" := by decide
  have hinner : Files.Stop.next closedBehindBroken {}
      ⟨"/", [], {}, closedBehindBroken.root.entries⟩ = [⟨"/z", ["z"], { read := false }, []⟩] := by
    have hsorted : ∀ d : Files.Stop, Files.byName [("z", d)] = [("z", d)] :=
      fun d => Files.byName_of_sorted (List.pairwise_singleton _ _)
    have hopen : Files.Stop.listable closedBehindBroken
        ⟨"/", [], {}, closedBehindBroken.root.entries⟩ = true :=
      Files.Stop.listable_iff.mpr ⟨_, _, _, closedBehindBroken.find_root, rfl⟩
    unfold Files.Stop.next
    rw [if_pos hopen, ← hjoin]
    exact congrArg (List.map (·.2)) (hsorted _)
  have hlast : Files.Stop.next closedBehindBroken {} ⟨"/z", ["z"], { read := false }, []⟩ = [] := by
    unfold Files.Stop.next Files.Stop.listable Files.Stop.fault?
    rw [list_closedBehindBroken.2]
    rfl
  unfold Files.stops
  rw [closedBehindBroken.find_root]
  change Files.Stop.below closedBehindBroken {}
    ⟨"/", [], {}, closedBehindBroken.root.entries⟩ = _
  rw [Files.Stop.below_eq, hinner, List.flatMap_singleton, Files.Stop.below_eq, hlast]
  rfl

theorem stops_garbledBeforeBroken :
    garbledBeforeBroken.stops {} "/" = [⟨"/", [], {}, garbledBeforeBroken.root.entries⟩] := by
  have hnone : ∀ {α : Type}, Files.byName ([] : List (String × α)) = [] :=
    Files.byName_of_sorted List.Pairwise.nil
  have hnext : Files.Stop.next garbledBeforeBroken {} ⟨"/", [], {},
      garbledBeforeBroken.root.entries⟩ = [] := by
    unfold Files.Stop.next
    split
    · exact congrArg (List.map (·.2)) hnone
    · rfl
  unfold Files.stops
  rw [garbledBeforeBroken.find_root]
  change Files.Stop.below garbledBeforeBroken {}
    ⟨"/", [], {}, garbledBeforeBroken.root.entries⟩ = _
  rw [Files.Stop.below_eq, hnext, List.flatMap_nil]

theorem bad_garbledBeforeBroken :
    (garbledBeforeBroken.walked {} "/").findSome? garbledBeforeBroken.badSource? =
      some .undecodable := by
  have hsorted : ∀ {α : Type} (u v : α),
      Files.byName [("a.go", u), ("b.go", v)] = [("a.go", u), ("b.go", v)] :=
    Files.byName_pair (by decide)
  have hjoin : Path.join "/" "a.go" = "/a.go" := by decide
  have hpath : Files.Spells "/a.go" ["a.go"] := by decide
  have hnames : garbledBeforeBroken.sourceNames {} "/" garbledBeforeBroken.root.entries =
      ["a.go", "b.go"] := by
    unfold Files.sourceNames garbledBeforeBroken Entry.entries
    rw [hsorted]
    decide
  have hread : garbledBeforeBroken.read "/a.go" = .ok _ :=
    garbledBeforeBroken.read_child hpath rfl rfl rfl rfl
  have hbad : garbledBeforeBroken.badSource? "/a.go" = some .undecodable := by
    unfold Files.badSource?
    rw [hread]
    dsimp only
    rw [if_neg (by decide +kernel), if_pos (by decide +kernel)]
  unfold Files.walked Files.Stop.sources
  rw [stops_garbledBeforeBroken, List.flatMap_singleton, hnames, List.map_cons, hjoin,
    List.findSome?_cons, hbad]

theorem verdict_garbledBeforeBroken : verdict garbledBeforeBroken {} "/" = .error .undecodable := by
  have hlist : garbledBeforeBroken.list "/" = .ok _ :=
    Files.list_of_find garbledBeforeBroken.find_root rfl
  unfold verdict
  rw [garbledBeforeBroken.isDirectory_root rfl, bad_garbledBeforeBroken, stops_garbledBeforeBroken]
  simp [Files.Stop.refusal?, Files.Stop.fault?, hlist]

theorem no_descriptor {f : Files} {mode : Mode} {es : List (String × Entry)}
    (hroot : f.root = .directory mode es) (hmode : mode.execute = true)
    (hnone : f.root.child? "go.mod" = none) :
    ∀ content, f.read (ModulePath.descriptor "/" {}) = .ok content → content.text? ≠ none := by
  intro content hread
  unfold Files.read at hread
  rw [f.find_free ModulePath.spells_descriptor hroot hmode hnone] at hread
  cases hread

/-- The directory is reported, and not the file that comes before it. Of two files the first is.
With a NUL in the name of the descriptor neither is. -/
theorem the_first_of_several_faults_is_reported :
    (run closedBehindBroken true "/" none (some {})).outcome =
        .error (.analysis (.unwalkable "/z" (.fault ⟨.denied, "/z"⟩))) ∧
      (run garbledBeforeBroken true "/" none (some {})).outcome = .error .undecodable ∧
      (run closedBehindBroken true "/" none (some { moduleDescriptor := "go\x00.mod" })).outcome =
        .error (.fault ⟨.embeddedNul, "/go\x00.mod"⟩) := by
  have hnames : closedBehindBroken.root.wellNamed = true := by decide
  have hroot := closedBehindBroken.absolute?_root
  have hplain := ModulePath.nul_notMem_descriptor
  refine ⟨?_, ?_, ?_⟩
  · rw [(a_run_fails_at_its_first_fault hnames hroot rfl (no_descriptor rfl rfl rfl)).1,
      if_neg (by decide), if_neg hplain]
    obtain ⟨hlist, hclosed⟩ := list_closedBehindBroken
    unfold verdict
    rw [closedBehindBroken.isDirectory_root rfl, stops_closedBehindBroken]
    simp [Files.Stop.refusal?, Files.Stop.fault?, hlist, hclosed]
  · rw [(a_run_fails_at_its_first_fault (by decide) garbledBeforeBroken.absolute?_root rfl
      (no_descriptor rfl rfl rfl)).1, if_neg (by decide), if_neg hplain]
    exact verdict_garbledBeforeBroken
  · have hnulPath : ModulePath.descriptor "/" { moduleDescriptor := "go\x00.mod" } =
        "/go\x00.mod" := by decide
    have hnul : '\x00' ∈ "/go\x00.mod".toList := by decide
    have hnone : ∀ content, closedBehindBroken.read
        (ModulePath.descriptor "/" { moduleDescriptor := "go\x00.mod" }) = .ok content →
          content.text? ≠ none := by
      intro content hread
      rw [hnulPath, Files.read_of_nul hnul] at hread
      cases hread
    rw [(a_run_fails_at_its_first_fault hnames hroot rfl hnone).1, if_neg (by decide), hnulPath,
      if_pos hnul]

end Analysis

end SourceAtlas
