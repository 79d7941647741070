-- What a run that came to an end has taken in: the files of the walk in their order, each
-- one read without a fault and with text wherever it was asked for, and their tables filled from
-- nothing.
import SourceAtlas.Analysis.Run
import SourceAtlas.Proofs.Gathering
import SourceAtlas.Proofs.Lookups

namespace SourceAtlas

/-! ## Work that came out well -/

namespace Traced

variable {α β : Type}

/-- Two works in a row came out well when the first did and the second did with its result. -/
theorem bind_ok {x : Traced α} {f : α → Traced β} {b : β} (h : (x >>= f).outcome = .ok b) :
    ∃ a, x.outcome = .ok a ∧ (f a).outcome = .ok b := by
  change (x.bind f).outcome = .ok b at h
  rw [outcome_bind] at h
  cases hx : x.outcome with
  | error e =>
    rw [hx] at h
    cases h
  | ok a =>
    rw [hx] at h
    exact ⟨a, rfl, h⟩

/-- After a first work that came out well, all depends on the second. -/
theorem outcome_bind_ok {x : Traced α} {f : α → Traced β} {a : α} (h : x.outcome = .ok a) :
    (x >>= f).outcome = (f a).outcome := by
  change (x.bind f).outcome = (f a).outcome
  rw [outcome_bind, h]
  rfl

theorem outcome_bind_error {x : Traced α} {f : α → Traced β} {e : Failure}
    (h : x.outcome = .error e) : (x >>= f).outcome = .error e := by
  change (x.bind f).outcome = .error e
  rw [outcome_bind, h]
  rfl

end Traced

/-! ## Looking things up -/

/-- A text that was written is read again. -/
theorem Content.text?_ofText (s : String) : (Content.ofText s).text? = some s := by
  unfold Content.ofText Content.text? Content.data String.fromUTF8?
  exact dif_pos s.isValidUTF8

namespace Files

/-- The name can be looked up in a directory: it is no step on the spot or up, and not too long. -/
def Proper (name : String) : Prop := name ∉ ["", ".", ".."] ∧ name.utf8ByteSize ≤ maxName

instance (name : String) : Decidable (Proper name) :=
  inferInstanceAs (Decidable (name ∉ ["", ".", ".."] ∧ name.utf8ByteSize ≤ maxName))

/-- The path is followed from the root, by these names. -/
structure Spells (path : String) (steps : List String) : Prop where
  noNul : path.toList.contains '\x00' = false
  short : path.utf8ByteSize ≤ maxPath
  absolute : Path.isAbsolute path = true
  names_eq : names path = steps
  proper : ∀ step ∈ steps, Proper step

instance (path : String) (steps : List String) : Decidable (Spells path steps) :=
  decidable_of_iff
    (path.toList.contains '\x00' = false ∧ path.utf8ByteSize ≤ maxPath ∧
      Path.isAbsolute path = true ∧ names path = steps ∧ ∀ step ∈ steps, Proper step)
    ⟨fun ⟨a, b, c, d, e⟩ => ⟨a, b, c, d, e⟩, fun ⟨a, b, c, d, e⟩ => ⟨a, b, c, d, e⟩⟩

section

variable (root : Entry) (links : Nat) {place rest : List String} {name : String} {mode : Mode}
  {es : List (String × Entry)}

/-- A step by a proper name in a directory that lets things be looked up. -/
theorem follow_step (hplace : root.at? place = some (.directory mode es))
    (hmode : mode.execute = true) (hname : Proper name) :
    follow root false links place (name :: rest) =
      (lookUp links place name rest ((Entry.directory mode es).child? name)).outcome root
        false := by
  rw [follow_cons, Entry.at?_snoc, hplace, Option.bind_some, turn_proper hmode hname.1 hname.2 rfl]

/-- A step to an entry that is no link. -/
theorem follow_child {e : Entry} (hplace : root.at? place = some (.directory mode es))
    (hmode : mode.execute = true) (hname : Proper name)
    (hchild : (Entry.directory mode es).child? name = some e) (hlink : ∀ target, e ≠ .link target) :
    follow root false links place (name :: rest) =
      follow root false links (place ++ [name]) rest := by
  rw [follow_step root links hplace hmode hname, hchild]
  cases e with
  | link target => exact absurd rfl (hlink target)
  | file mode content => rfl
  | directory mode es => rfl

/-- A step to a link goes on with the names of its target. -/
theorem follow_link {target : String} (hplace : root.at? place = some (.directory mode es))
    (hmode : mode.execute = true) (hname : Proper name)
    (hchild : (Entry.directory mode es).child? name = some (.link target)) :
    follow root false (links + 1) place (name :: rest) =
      follow root false links (if Path.isAbsolute target then [] else place)
        (names target ++ rest) := by
  rw [follow_step root _ hplace hmode hname, hchild]
  rfl

/-- A last step to a name that is still free. -/
theorem follow_free (hplace : root.at? place = some (.directory mode es))
    (hmode : mode.execute = true) (hname : Proper name)
    (hchild : (Entry.directory mode es).child? name = none) :
    follow root false links place [name] = .ok (.free place name) := by
  rw [follow_step root links hplace hmode hname, hchild]
  rfl

end

theorem Spells.locate {path : String} {steps : List String} (h : Spells path steps) (f : Files)
    (made : Bool) : f.locate made path = follow f.root made maxLinks [] steps := by
  have hempty : path ≠ "" := by
    rintro rfl
    cases h.absolute
  unfold Files.locate
  rw [h.noNul, if_neg Bool.false_ne_true, if_neg (by simpa using hempty),
    if_neg (Nat.not_lt.mpr h.short), if_pos h.absolute, h.names_eq]

/-- What is found at the end of such a path. -/
theorem Spells.find {path : String} {steps place : List String} {e : Entry} (h : Spells path steps)
    {f : Files} (hfollow : follow f.root false maxLinks [] steps = .ok (.found place))
    (he : f.root.at? place = some e) : f.find path = .ok (some place, e) := by
  unfold Files.find
  rw [h.locate, hfollow]
  simp only [bind, Except.bind, he]
  rfl

theorem find_root (f : Files) : f.find "/" = .ok (some [], f.root) := by
  have hpath : Spells "/" [] := by decide
  exact hpath.find (by rw [follow]) rfl

theorem isDirectory_root (f : Files) {mode : Mode} {es : List (String × Entry)}
    (hroot : f.root = .directory mode es) : f.isDirectory "/" = true := by
  unfold isDirectory
  rw [f.find_root, hroot]
  rfl

theorem absolute?_root (f : Files) : f.absolute? "/" = some "/" := by
  have hnormal : Path.normalize "/" = "/" := by decide
  unfold absolute?
  cases f.hereText with
  | none => exact congrArg some hnormal
  | some here => exact congrArg some hnormal

theorem hereText_root {f : Files} (h : f.here = .present []) : f.hereText = some "/" := by
  unfold hereText
  rw [h]
  decide

/-- Nothing is found under a name that is free at the root. -/
theorem find_free (f : Files) {path name : String} {mode : Mode} {es : List (String × Entry)}
    (hpath : Spells path [name]) (hroot : f.root = .directory mode es)
    (hmode : mode.execute = true) (hnone : f.root.child? name = none) :
    f.find path = .error .notFound := by
  have hplace : f.root.at? [] = some (.directory mode es) := congrArg some hroot
  have hname : Proper name := hpath.proper name (List.mem_singleton_self name)
  rw [hroot] at hnone
  unfold find
  rw [hpath.locate, follow_free _ _ hplace hmode hname hnone]
  rfl

/-- What stands at the root and is no link is found. -/
theorem find_child (f : Files) {path name : String} {mode : Mode} {es : List (String × Entry)}
    {e : Entry} (hpath : Spells path [name]) (hroot : f.root = .directory mode es)
    (hmode : mode.execute = true) (hchild : f.root.child? name = some e)
    (hlink : ∀ target, e ≠ .link target) : f.find path = .ok (some [name], e) := by
  have hplace : f.root.at? [] = some (.directory mode es) := congrArg some hroot
  have hname : Proper name := hpath.proper name (List.mem_singleton_self name)
  have hfollow : follow f.root false maxLinks [] [name] = .ok (.found [name]) := by
    rw [follow_child _ _ hplace hmode hname (hroot ▸ hchild) hlink, follow]
    rfl
  exact hpath.find hfollow (by simp [Entry.at?, hchild])

theorem read_of_find {f : Files} {path : String} {place : Option (List String)} {mode : Mode}
    {content : Content} (hfind : f.find path = .ok (place, .file mode content))
    (hmode : mode.read = true) : f.read path = .ok content := by
  unfold read
  rw [hfind]
  simp [hmode]

theorem list_of_find {f : Files} {path : String} {place : Option (List String)} {mode : Mode}
    {es : List (String × Entry)} (hfind : f.find path = .ok (place, .directory mode es))
    (hmode : mode.read = true) : f.list path = .ok es := by
  unfold list
  rw [hfind]
  simp [hmode]

/-- A file that stands at the root is read. -/
theorem read_child (f : Files) {path name : String} {mode fileMode : Mode}
    {es : List (String × Entry)} {content : Content} (hpath : Spells path [name])
    (hroot : f.root = .directory mode es) (hmode : mode.execute = true)
    (hchild : f.root.child? name = some (.file fileMode content)) (hread : fileMode.read = true) :
    f.read path = .ok content :=
  read_of_find (f.find_child hpath hroot hmode hchild (by simp)) hread

/-- A directory that stands at the root is listed. -/
theorem list_child (f : Files) {path name : String} {mode innerMode : Mode}
    {es inner : List (String × Entry)} (hpath : Spells path [name])
    (hroot : f.root = .directory mode es) (hmode : mode.execute = true)
    (hchild : f.root.child? name = some (.directory innerMode inner))
    (hread : innerMode.read = true) : f.list path = .ok inner :=
  list_of_find (f.find_child hpath hroot hmode hchild (by simp)) hread

/-- Pairs that are in order stay as they are. -/
theorem byName_of_sorted {α : Type} {es : List (String × α)}
    (h : es.Pairwise fun a b => a.1 ≤ b.1) : byName es = es := by
  unfold byName
  apply List.mergeSort_of_pairwise
  simpa using h

theorem byName_pair {α : Type} {name name' : String} (h : name ≤ name') (x x' : α) :
    byName [(name, x), (name', x')] = [(name, x), (name', x')] :=
  byName_of_sorted (by simp [h])

/-- The source files of a directory that holds nothing but files, listed in order. -/
theorem sourcesBelow_of_files (f : Files) {settings : Settings} {path : String} {mode : Mode}
    {es listed : List (String × Entry)} (hlist : f.list path = .ok listed)
    (hsorted : es.Pairwise fun a b => a.1 ≤ b.1)
    (hfiles : ∀ x ∈ es, ∃ fileMode content, x.2 = .file fileMode content) :
    f.sourcesBelow settings path (.directory mode es) =
      .ok ((es.filter fun x => settings.isSource x.1).map fun x => Path.join path x.1) := by
  have hnone : byName ([] : List (String × Except Fault (List String))) = [] :=
    byName_of_sorted List.Pairwise.nil
  have hbelow : sourcesOfEntries f settings path es = [] := by
    clear hsorted
    induction es with
    | nil => rfl
    | cons x es ih =>
      obtain ⟨name, e⟩ := x
      obtain ⟨⟨fileMode, content, rfl⟩, hrest⟩ := List.forall_mem_cons.mp hfiles
      rw [sourcesOfEntries, ih hrest]
      rfl
  have hown : f.sourceNames settings path es =
      (es.filter fun x => settings.isSource x.1).map (·.1) := by
    unfold sourceNames
    rw [byName_of_sorted hsorted]
    congr 1
    refine List.filter_congr fun x hx => ?_
    obtain ⟨name, e⟩ := x
    obtain ⟨fileMode, content, rfl⟩ := hfiles _ hx
    rfl
  rw [sourcesBelow, hlist]
  simp only [hown, hbelow, hnone, List.map_nil, List.map_map]
  exact congrArg Except.ok (List.append_nil _)

end Files

namespace ModulePath

theorem spells_descriptor : Files.Spells (descriptor "/" {}) ["go.mod"] := by decide

theorem nul_notMem_descriptor : '\x00' ∉ (descriptor "/" {}).toList := by
  simpa using spells_descriptor.noNul

/-- Without a descriptor at the root of the file tree the module has no path. -/
theorem detect_of_missing {f : Files} {mode : Mode} {es : List (String × Entry)}
    (hroot : f.root = .directory mode es) (hmode : mode.execute = true)
    (hnone : f.root.child? "go.mod" = none) : (detect f "/" {}).outcome = .ok "" := by
  unfold detect Files.read
  rw [f.find_free spells_descriptor hroot hmode hnone]
  rfl

end ModulePath

/-! ## One file after the other -/

namespace Source

/-- The tree of a file does not depend on whether the parser was ready. -/
theorem outcome_read (f : Files) (language : String) (ready : Bool) (path : String) :
    (read f language ready path).outcome = (read f language true path).outcome := by
  unfold read
  cases f.read path with
  | error fault => rfl
  | ok content =>
    dsimp only
    split
    · rfl
    · cases sound path content.tree <;> rfl

/-- All depends on the tree once a file of a known language is read. -/
theorem outcome_read_of_content {f : Files} {language path : String} {content : Content}
    (ready : Bool) (hread : f.read path = .ok content)
    (hlanguage : languages.contains language = true) :
    (read f language ready path).outcome = (sound path content.tree).mapError .analysis := by
  unfold read
  rw [hread]
  simp only [hlanguage, Bool.not_true, Bool.false_eq_true, if_false]
  cases sound path content.tree <;> rfl

end Source

/-- A file is entered when the way to it from the base is known and all that is asked of it is
text. -/
theorem Symbols.outcome_take {s : Symbols} {f : Files} {file : SourceFile} {base directory : String}
    (hbase : f.absolute? s.base = some base)
    (hdirectory : f.absolute? (Path.directory file.path) = some directory) :
    (s.take f file).outcome =
      if file.tree.isReadable then .ok (s.addFile (f.hereText.getD "/") file)
      else .error .undecodable := by
  unfold take
  simp only [hbase, hdirectory]
  cases file.tree.isReadable <;> rfl

namespace Analysis

variable {f : Files} {settings : Settings} {ready : Bool}

/-- A file that could be entered was read, and its declarations are in the tables. -/
theorem addSource_ok {s s' : Symbols} {path : String}
    (h : (addSource f settings ready s path).outcome = .ok s') :
    ∃ tree, (Source.read f settings.language true path).outcome = .ok tree ∧
      tree.isReadable = true ∧ s' = s.addFile (f.hereText.getD "/") ⟨path, tree⟩ := by
  unfold addSource at h
  obtain ⟨_, _, h⟩ := Traced.bind_ok h
  obtain ⟨tree, hread, h⟩ := Traced.bind_ok h
  rw [Source.outcome_read] at hread
  refine ⟨tree, hread, ?_⟩
  unfold Symbols.take at h
  split at h
  · by_cases hreadable : tree.isReadable = true
    · simp only [hreadable, Bool.not_true, Bool.false_eq_true, if_false] at h
      obtain ⟨_, _, h⟩ := Traced.bind_ok h
      cases h
      exact ⟨hreadable, rfl⟩
    · simp only [hreadable, Bool.not_false, if_true] at h
      cases h
  · cases h

/-- Files that could all be entered were read, and they were entered in their order. -/
theorem addSources_ok {paths : List String} {s s' : Symbols}
    (h : (addSources f settings ready s paths).outcome = .ok s') :
    ∃ files : List SourceFile, files.map (·.path) = paths ∧
      (∀ file ∈ files,
        (Source.read f settings.language true file.path).outcome = .ok file.tree) ∧
      (∀ file ∈ files, file.tree.isReadable = true) ∧
      s' = files.foldl (fun s file => s.addFile (f.hereText.getD "/") file) s := by
  induction paths generalizing ready s with
  | nil =>
    unfold addSources at h
    cases h
    exact ⟨[], rfl, by simp, by simp, rfl⟩
  | cons path paths ih =>
    unfold addSources at h
    obtain ⟨s1, hfirst, hrest⟩ := Traced.bind_ok h
    obtain ⟨tree, hread, htree, rfl⟩ := addSource_ok hfirst
    obtain ⟨files, hpaths, hfiles, htrees, rfl⟩ := ih hrest
    exact ⟨⟨path, tree⟩ :: files, by rw [List.map_cons, hpaths],
      List.forall_mem_cons.mpr ⟨hread, hfiles⟩, List.forall_mem_cons.mpr ⟨htree, htrees⟩, rfl⟩

/-- In a directory that is still there, a file that can be read is entered. -/
theorem outcome_addSource {here : String} (hhere : f.hereText = some here) (ready : Bool)
    (s : Symbols) {file : SourceFile}
    (h : (Source.read f settings.language true file.path).outcome = .ok file.tree)
    (hreadable : file.tree.isReadable = true) :
    (addSource f settings ready s file.path).outcome = .ok (s.addFile here file) := by
  unfold addSource
  rw [Traced.outcome_bind_ok rfl, Traced.outcome_bind_ok ((Source.outcome_read ..).trans h)]
  have hknown : ∀ path, f.absolute? path = some (Path.absolute here path) := by
    intro path
    unfold Files.absolute?
    rw [hhere]
  rw [Symbols.outcome_take (hknown _) (hknown _), if_pos hreadable, hhere]
  rfl

theorem outcome_addSources {here : String} (hhere : f.hereText = some here)
    {files : List SourceFile}
    (h : ∀ file ∈ files,
      (Source.read f settings.language true file.path).outcome = .ok file.tree)
    (hreadable : ∀ file ∈ files, file.tree.isReadable = true) (ready : Bool) (s : Symbols) :
    (addSources f settings ready s (files.map (·.path))).outcome =
      .ok (files.foldl (fun s file => s.addFile here file) s) := by
  induction files generalizing ready s with
  | nil => rfl
  | cons file files ih =>
    obtain ⟨hfile, hfiles⟩ := List.forall_mem_cons.mp h
    obtain ⟨htree, htrees⟩ := List.forall_mem_cons.mp hreadable
    have hfirst := outcome_addSource hhere ready s hfile htree
    rw [List.map_cons, addSources, Traced.outcome_bind_ok hfirst]
    exact ih hfiles htrees true _

/-! ## The whole run -/

/-- What a run takes in under its settings: the path of the module that the descriptor gives,
and the files of the walk with their trees. -/
structure Taken (f : Files) (settings : Settings) (o : Origin) (files : List SourceFile) :
    Prop where
  here : o.here = f.hereText.getD "/"
  modulePath : (ModulePath.detect f o.base settings).outcome = .ok o.modulePath
  walked : walk f settings o.base = .ok (files.map (·.path))
  read : ∀ file ∈ files, (Source.read f settings.language true file.path).outcome = .ok file.tree
  readable : ∀ file ∈ files, file.tree.isReadable = true

theorem collect_ok {root : String} {s : Symbols}
    (h : (collect f settings ready root).outcome = .ok s) :
    ∃ (o : Origin) (files : List SourceFile),
      o.base = root ∧ Taken f settings o files ∧ s = o.gather files := by
  unfold collect at h
  obtain ⟨modulePath, hmodule, h⟩ := Traced.bind_ok h
  split at h
  · cases h
  · rename_i paths hwalk
    obtain ⟨s1, hadd, h⟩ := Traced.bind_ok h
    obtain ⟨_, _, h⟩ := Traced.bind_ok h
    cases h
    obtain ⟨files, rfl, hread, hreadable, rfl⟩ := addSources_ok hadd
    exact ⟨⟨f.hereText.getD "/", root, modulePath⟩, files, rfl,
      ⟨rfl, hmodule, hwalk, hread, hreadable⟩, rfl⟩

/-- The graph of a run is the graph of the files that the run took in. -/
theorem run_ok {path : String} {language : Option String} {given : Option Settings} {g : Graph}
    (h : (run f ready path language given).outcome = .ok g) :
    ∃ (settings : Settings) (o : Origin) (files : List SourceFile),
      f.absolute? path = some o.base ∧
      (settingsFor f o.base language given).outcome = .ok settings ∧
      Taken f settings o files ∧ g = (o.gather files).graph := by
  unfold run at h
  split at h
  · cases h
  · rename_i root hroot
    obtain ⟨settings, hsettings, h⟩ := Traced.bind_ok h
    unfold graphAt at h
    split at h
    · cases h
    · obtain ⟨s, hcollect, h⟩ := Traced.bind_ok h
      obtain ⟨_, _, h⟩ := Traced.bind_ok h
      cases h
      obtain ⟨o, files, rfl, htaken, rfl⟩ := collect_ok hcollect
      exact ⟨settings, o, files, hroot, hsettings, htaken, rfl⟩

/-- In a directory that is still there, a run that can take in its files has their graph. -/
theorem outcome_run {path here : String} {language : Option String} {given : Option Settings}
    {o : Origin} {files : List SourceFile} (hhere : f.hereText = some here)
    (hbase : f.absolute? path = some o.base)
    (hsettings : (settingsFor f o.base language given).outcome = .ok settings)
    (hlanguage : languages.contains settings.language = true) (h : Taken f settings o files) :
    (run f ready path language given).outcome = .ok (o.gather files).graph := by
  have hcollect : (collect f settings ready o.base).outcome = .ok (o.gather files) := by
    unfold collect
    rw [Traced.outcome_bind_ok h.modulePath, h.walked]
    have horigin : o.here = here := by rw [h.here, hhere]; rfl
    have hadd := outcome_addSources hhere h.read h.readable ready o.start
    unfold Origin.gather
    rw [horigin]
    exact (Traced.outcome_bind_ok hadd).trans rfl
  unfold run
  rw [hbase]
  dsimp only
  rw [Traced.outcome_bind_ok hsettings]
  unfold graphAt
  rw [hlanguage, Bool.not_true, if_neg Bool.false_ne_true, Traced.outcome_bind_ok hcollect]
  rfl

end Analysis

end SourceAtlas
