-- When two symbols share an id. Keys of different kinds are never equal, but their dotted
-- texts may be: a type and a function of one name, or a package whose path goes on with a
-- dot where another one ends. Where directories and names have no dot, only the first
-- can happen.
import SourceAtlas.Proofs.AnalysisRuns
import SourceAtlas.Proofs.GraphPasses
import SourceAtlas.Proofs.PackagePaths

namespace SourceAtlas

/-! ## Dotted texts -/

theorem append_dot_inj {a b c d : List Char} (hb : '.' ∉ b) (hd : '.' ∉ d)
    (h : a ++ '.' :: b = c ++ '.' :: d) : a = c ∧ b = d := by
  rcases List.append_eq_append_iff.mp h with ⟨x, hc, hx⟩ | ⟨x, ha, hx⟩
  · cases x with
    | nil => simp_all
    | cons y ys =>
      simp only [List.cons_append, List.cons.injEq] at hx
      exact absurd (hx.2 ▸ List.mem_append_right ys List.mem_cons_self) hb
  · cases x with
    | nil => simp_all
    | cons y ys =>
      simp only [List.cons_append, List.cons.injEq] at hx
      exact absurd (hx.2 ▸ List.mem_append_right ys List.mem_cons_self) hd

/-- A text is split at its last dot in one way. -/
theorem last_dot_inj {a b c d : String} (hb : '.' ∉ b.toList) (hd : '.' ∉ d.toList)
    (h : a ++ "." ++ b = c ++ "." ++ d) : a = c ∧ b = d := by
  have hchars : a.toList ++ '.' :: b.toList = c.toList ++ '.' :: d.toList := by
    simpa using congrArg String.toList h
  obtain ⟨h1, h2⟩ := append_dot_inj hb hd hchars
  exact ⟨String.toList_inj.mp h1, String.toList_inj.mp h2⟩

namespace Key

/-- The names that a key puts behind its package. -/
def names : Key → List String
  | package _ => []
  | type _ n => [n]
  | function _ n => [n]
  | method _ r n => [r, n]

/-- No name of the key has a dot. -/
def Plain (k : Key) : Prop := ∀ n ∈ k.names, '.' ∉ n.toList

/-- The text of a symbol goes on with a dot behind its package. -/
theorem id_eq_dot {k : Key} (h : ∀ p, k ≠ .package p) : ∃ x, k.id = k.packagePath ++ "." ++ x := by
  cases k with
  | package p => exact absurd rfl (h p)
  | type p n => exact ⟨n, rfl⟩
  | function p n => exact ⟨n, rfl⟩
  | method p r n => exact ⟨r ++ "." ++ n, by simp [id, packagePath, String.append_assoc]⟩

/-- The ways in which two keys come to one text. -/
inductive Clash : Key → Key → Prop
  /-- A type and a function of one package have the same name. -/
  | name (p n : String) : Clash (type p n) (function p n)
  /-- A package path is that of a type, a function or a method of another package. -/
  | packageType (p n : String) : Clash (package (p ++ "." ++ n)) (type p n)
  | packageFunction (p n : String) : Clash (package (p ++ "." ++ n)) (function p n)
  | packageMethod (p r n : String) : Clash (package (p ++ "." ++ r ++ "." ++ n)) (method p r n)
  /-- A package path ends with the receiver of a method, and the package has a type or a
  function with the name of the method. -/
  | typeMethod (p r n : String) : Clash (type (p ++ "." ++ r) n) (method p r n)
  | functionMethod (p r n : String) : Clash (function (p ++ "." ++ r) n) (method p r n)

theorem Clash.id_eq {k l : Key} (h : Clash k l) : k.id = l.id := by
  cases h <;> rfl

theorem Clash.ne {k l : Key} (h : Clash k l) : k ≠ l := by
  cases h <;> simp

theorem Plain.type {p n : String} (h : (Key.type p n).Plain) : '.' ∉ n.toList :=
  h n List.mem_cons_self

theorem Plain.function {p n : String} (h : (Key.function p n).Plain) : '.' ∉ n.toList :=
  h n List.mem_cons_self

theorem Plain.receiver {p r n : String} (h : (Key.method p r n).Plain) : '.' ∉ r.toList :=
  h r List.mem_cons_self

theorem Plain.method {p r n : String} (h : (Key.method p r n).Plain) : '.' ∉ n.toList :=
  h n (List.mem_cons_of_mem r List.mem_cons_self)

/-- Two keys with plain names have the same text only when they are equal or clash. -/
theorem eq_or_clash {k l : Key} (hk : k.Plain) (hl : l.Plain) (h : k.id = l.id) :
    k = l ∨ Clash k l ∨ Clash l k := by
  -- the last dot of a text parts the last name, which has none, from all that stands before it
  cases k with
  | package p =>
    cases l with
    | package q => exact Or.inl (congrArg package h)
    | type q n =>
      obtain rfl : p = q ++ "." ++ n := h
      exact Or.inr (Or.inl (.packageType q n))
    | function q n =>
      obtain rfl : p = q ++ "." ++ n := h
      exact Or.inr (Or.inl (.packageFunction q n))
    | method q r n =>
      obtain rfl : p = q ++ "." ++ r ++ "." ++ n := h
      exact Or.inr (Or.inl (.packageMethod q r n))
  | type p n =>
    cases l with
    | package q =>
      obtain rfl : p ++ "." ++ n = q := h
      exact Or.inr (Or.inr (.packageType p n))
    | type q m =>
      obtain ⟨rfl, rfl⟩ := last_dot_inj hk.type hl.type h
      exact Or.inl rfl
    | function q m =>
      obtain ⟨rfl, rfl⟩ := last_dot_inj hk.type hl.function h
      exact Or.inr (Or.inl (.name p n))
    | method q r m =>
      obtain ⟨rfl, rfl⟩ := last_dot_inj hk.type hl.method h
      exact Or.inr (Or.inl (.typeMethod q r n))
  | function p n =>
    cases l with
    | package q =>
      obtain rfl : p ++ "." ++ n = q := h
      exact Or.inr (Or.inr (.packageFunction p n))
    | type q m =>
      obtain ⟨rfl, rfl⟩ := last_dot_inj hk.function hl.type h
      exact Or.inr (Or.inr (.name p n))
    | function q m =>
      obtain ⟨rfl, rfl⟩ := last_dot_inj hk.function hl.function h
      exact Or.inl rfl
    | method q r m =>
      obtain ⟨rfl, rfl⟩ := last_dot_inj hk.function hl.method h
      exact Or.inr (Or.inl (.functionMethod q r n))
  | method p r n =>
    cases l with
    | package q =>
      obtain rfl : p ++ "." ++ r ++ "." ++ n = q := h
      exact Or.inr (Or.inr (.packageMethod p r n))
    | type q m =>
      obtain ⟨rfl, rfl⟩ := last_dot_inj hk.method hl.type h
      exact Or.inr (Or.inr (.typeMethod p r n))
    | function q m =>
      obtain ⟨rfl, rfl⟩ := last_dot_inj hk.method hl.function h
      exact Or.inr (Or.inr (.functionMethod p r n))
    | method q t m =>
      obtain ⟨hstem, rfl⟩ := last_dot_inj hk.method hl.method h
      obtain ⟨rfl, rfl⟩ := last_dot_inj hk.receiver hl.receiver hstem
      exact Or.inl rfl

end Key

/-! ## The ids of a graph -/

namespace Symbols

variable {s : Symbols}

/-- The ids are distinct exactly when no two keys have the same text. -/
theorem Keyed.nodup_ids_iff (h : s.Keyed) :
    (s.graph.components.map (·.id)).Nodup ↔
      ∀ k ∈ s.keys, ∀ l ∈ s.keys, k.id = l.id → k = l := by
  rw [ids_graph]
  exact List.nodup_map_iff_inj_on h.nodup_keys

/-- Where all names are plain, the ids are distinct exactly when no two keys clash. -/
theorem Keyed.nodup_ids_iff_no_clash (h : s.Keyed) (hplain : ∀ k ∈ s.keys, k.Plain) :
    (s.graph.components.map (·.id)).Nodup ↔ ∀ k ∈ s.keys, ∀ l ∈ s.keys, ¬ k.Clash l := by
  rw [h.nodup_ids_iff]
  constructor
  · intro hinj k hk l hl hclash
    exact hclash.ne (hinj k hk l hl hclash.id_eq)
  · intro hclear k hk l hl hid
    rcases Key.eq_or_clash (hplain k hk) (hplain l hl) hid with he | hclash | hclash
    · exact he
    · exact absurd hclash (hclear k hk l hl)
    · exact absurd hclash (hclear l hl k hk)

end Symbols

/-! ## The ids of a run -/

namespace Origin

/-- No stored type, no function, no method and no receiver has a dot in its name. -/
def PlainNames (o : Origin) (files : List SourceFile) : Prop :=
  ∀ file ∈ files, ∀ d ∈ o.declarations file, ∀ k, d.key? = some k → k.Plain

theorem plain_keys (o : Origin) {files : List SourceFile} (h : o.PlainNames files) :
    ∀ k ∈ (o.gather files).keys, k.Plain := by
  intro k hk
  obtain ⟨file, hfile, rfl | ⟨d, hd, hkey⟩⟩ := o.mem_keys_gather.mp hk
  · simp [Key.Plain, Key.names]
  · exact h file hfile d hd k hkey

end Origin

namespace Analysis

/-- The ids of a run are distinct exactly when no two keys that its files bring in have the
same text. Where names have no dot, that is when no two of these keys clash. -/
theorem ids_of_a_run_are_distinct_unless_two_keys_have_one_text {f : Files} {ready : Bool}
    {path : String} {language : Option String} {given : Option Settings} {g : Graph}
    (h : (run f ready path language given).outcome = .ok g) :
    ∃ (settings : Settings) (o : Origin) (files : List SourceFile),
      f.absolute? path = some o.base ∧
      (settingsFor f o.base language given).outcome = .ok settings ∧
      Taken f settings o files ∧ g = (o.gather files).graph ∧
      ((g.components.map (·.id)).Nodup ↔
        ∀ k l, o.Declares files k → o.Declares files l → k.id = l.id → k = l) ∧
      (o.PlainNames files →
        ((g.components.map (·.id)).Nodup ↔
          ∀ k l, o.Declares files k → o.Declares files l → ¬ k.Clash l)) := by
  obtain ⟨settings, o, files, hbase, hsettings, htaken, rfl⟩ := run_ok h
  have hk := o.keyed_gather files
  refine ⟨settings, o, files, hbase, hsettings, htaken, rfl, ?_, ?_⟩
  · rw [hk.nodup_ids_iff]
    simp only [Origin.mem_keys_gather]
    exact ⟨fun hinj k l hk hl => hinj k hk l hl, fun hinj k hk l hl => hinj k l hk hl⟩
  · intro hname
    rw [hk.nodup_ids_iff_no_clash (o.plain_keys hname)]
    simp only [Origin.mem_keys_gather]
    exact ⟨fun hclear k l hk hl => hclear k hk l hl, fun hclear k hk l hl => hclear k l hk hl⟩

/-- A syntax tree with one function, which is called `b`. -/
def functionTree : Node :=
  .mk { kind := "source_file" }
    [.mk { kind := "function_declaration" }
      [.mk { kind := "identifier", field := some "name", text := some "b" } []]]

/-- The directories `a` and `a.b`, where the package in `a` has a function `b`. -/
def dottedDirectories : Files where
  root := .directory {}
    [("a", .directory {} [("x.go", .file {} (.parsed functionTree))]),
     ("a.b", .directory {} [("y.go", .file {} (.parsed (.mk { kind := "source_file" } [])))])]

theorem sources_dottedDirectories :
    dottedDirectories.sourcesBelow {} "/" dottedDirectories.root =
      .ok ["/a/x.go", "/a.b/y.go"] := by
  have hpathA : Files.Spells "/a" ["a"] := by decide
  have hpathB : Files.Spells "/a.b" ["a.b"] := by decide
  have hlist : dottedDirectories.list "/" = .ok dottedDirectories.root.entries :=
    Files.list_of_find dottedDirectories.find_root rfl
  have hlistA : dottedDirectories.list "/a" = .ok _ :=
    dottedDirectories.list_child hpathA rfl rfl rfl rfl
  have hlistB : dottedDirectories.list "/a.b" = .ok _ :=
    dottedDirectories.list_child hpathB rfl rfl rfl rfl
  have hx : dottedDirectories.sourcesBelow {} "/a"
      (.directory {} [("x.go", .file {} (.parsed functionTree))]) = .ok ["/a/x.go"] :=
    dottedDirectories.sourcesBelow_of_files hlistA (by simp) (by simp)
  have hy : dottedDirectories.sourcesBelow {} "/a.b"
      (.directory {} [("y.go", .file {} (.parsed (.mk { kind := "source_file" } [])))]) =
      .ok ["/a.b/y.go"] :=
    dottedDirectories.sourcesBelow_of_files hlistB (by simp) (by simp)
  have hbelow : dottedDirectories.sourcesOfEntries {} "/" dottedDirectories.root.entries =
      [("a", .ok ["/a/x.go"]), ("a.b", .ok ["/a.b/y.go"])] := by
    rw [← hx, ← hy]
    rfl
  have hsorted : ∀ {α : Type} (u v : α),
      Files.byName [("a", u), ("a.b", v)] = [("a", u), ("a.b", v)] :=
    Files.byName_pair (by decide)
  have hown : dottedDirectories.sourceNames {} "/" dottedDirectories.root.entries = [] := by
    unfold Files.sourceNames dottedDirectories Entry.entries
    rw [hsorted]
    rfl
  change dottedDirectories.sourcesBelow {} "/" (.directory {} dottedDirectories.root.entries) = _
  rw [Files.sourcesBelow, hlist]
  simp only [hown, hbelow, hsorted]
  rfl

theorem taken_dottedDirectories : Taken dottedDirectories {} ⟨"/", "/", ""⟩
    [⟨"/a/x.go", functionTree⟩, ⟨"/a.b/y.go", .mk { kind := "source_file" } []⟩] where
  here := by rw [Files.hereText_root rfl]; rfl
  modulePath := ModulePath.detect_of_missing rfl rfl rfl
  walked := by
    have hroot := dottedDirectories.find_root
    have hsources : dottedDirectories.sources {} "/" = .ok ["/a/x.go", "/a.b/y.go"] := by
      unfold Files.sources
      rw [hroot]
      exact sources_dottedDirectories
    unfold walk Files.isDirectory
    rw [hroot]
    simp only [hsources]
    rfl
  read := by
    have hx : dottedDirectories.find "/a/x.go" =
        .ok (some ["a", "x.go"], .file {} (.parsed functionTree)) := by
      have hpath : Files.Spells "/a/x.go" ["a", "x.go"] := by decide
      obtain ⟨hdirectory, hfile⟩ := List.forall_mem_cons.mp hpath.proper
      refine hpath.find ?_ rfl
      rw [Files.follow_child _ _ rfl rfl hdirectory rfl (by simp),
        Files.follow_child _ _ rfl rfl (hfile _ (List.mem_singleton_self _)) rfl (by simp),
        Files.follow]
      rfl
    have hy : dottedDirectories.find "/a.b/y.go" =
        .ok (some ["a.b", "y.go"], .file {} (.parsed (.mk { kind := "source_file" } []))) := by
      have hpath : Files.Spells "/a.b/y.go" ["a.b", "y.go"] := by decide
      obtain ⟨hdirectory, hfile⟩ := List.forall_mem_cons.mp hpath.proper
      refine hpath.find ?_ rfl
      rw [Files.follow_child _ _ rfl rfl hdirectory rfl (by simp),
        Files.follow_child _ _ rfl rfl (hfile _ (List.mem_singleton_self _)) rfl (by simp),
        Files.follow]
      rfl
    intro file hfile
    simp only [List.mem_cons, List.not_mem_nil, or_false] at hfile
    rcases hfile with rfl | rfl
    · unfold Source.read Files.read
      rw [hx]
      rfl
    · unfold Source.read Files.read
      rw [hy]
      rfl
  readable := by decide

/-- The package in `a.b` and the function `b` of the package in `a` have one id. -/
theorem a_package_and_a_function_share_an_id :
    ∃ g, (run dottedDirectories true "/" none (some {})).outcome = .ok g ∧
      g.components.map (·.id) = ["/a", "/a.b", "/a.b"] ∧
      ∃ (o : Origin) (files : List SourceFile) (k l : Key), Taken dottedDirectories {} o files ∧
        o.Declares files k ∧ o.Declares files l ∧ k.id = l.id ∧ k ≠ l := by
  have hrun : (run dottedDirectories true "/" none (some {})).outcome = .ok _ :=
    outcome_run (Files.hereText_root rfl) dottedDirectories.absolute?_root rfl (by decide)
      taken_dottedDirectories
  have hids : (((⟨"/", "/", ""⟩ : Origin).gather [⟨"/a/x.go", functionTree⟩,
      ⟨"/a.b/y.go", .mk { kind := "source_file" } []⟩]).graph.components.map (·.id)) =
      ["/a", "/a.b", "/a.b"] := by decide +kernel
  refine ⟨_, hrun, hids, ?_⟩
  obtain ⟨settings, o, files, _, hsettings, htaken, _, hdistinct, _⟩ :=
    ids_of_a_run_are_distinct_unless_two_keys_have_one_text hrun
  cases hsettings
  rw [hids] at hdistinct
  have hshared := (not_congr hdistinct).mp (by decide)
  simp only [not_forall] at hshared
  obtain ⟨k, l, hk, hl, hid, hne⟩ := hshared
  exact ⟨o, files, k, l, htaken, hk, hl, hid, hne⟩

end Analysis

/-! ## Directories without a dot -/

namespace Origin

/-- No directory but the base itself has a dot in its text. -/
def PlainDirectories (o : Origin) (files : List SourceFile) : Prop :=
  ∀ file ∈ files, o.directory file ≠ "." → '.' ∉ (o.directory file).toList

/-- No package path is that of the module with a dot behind it. -/
theorem package_ne_module_dot (o : Origin) (file : SourceFile) (x : String) :
    o.package file ≠ o.modulePath ++ "." ++ x := by
  rw [package_eq]
  intro h
  have hchars := congrArg String.toList h
  split at hchars
  · simp at hchars
  · simp at hchars

/-- Where directories have no dot, no package path is another one with a dot behind it. -/
theorem package_ne_package_dot (o : Origin) {file file' : SourceFile} {x : String}
    (h : o.directory file ≠ "." → '.' ∉ (o.directory file).toList) :
    o.package file ≠ o.package file' ++ "." ++ x := by
  by_cases hroot' : o.directory file' = "."
  · have hmodule : o.package file' = o.modulePath := by rw [package_eq, if_pos hroot']
    rw [hmodule]
    exact o.package_ne_module_dot file x
  · rw [package_eq, package_eq, if_neg hroot']
    intro hsame
    have hchars := congrArg String.toList hsame
    split at hchars
    · simp at hchars
    · rename_i hroot
      have hdir : (o.directory file).toList = (o.directory file').toList ++ '.' :: x.toList := by
        simpa using hchars
      exact h hroot (hdir ▸ List.mem_append_right _ List.mem_cons_self)

/-- Where directories have no dot, only a type and a function of one name clash. -/
theorem clash_of_plainDirectories (o : Origin) {files : List SourceFile}
    (h : o.PlainDirectories files) {k l : Key} (hk : k ∈ (o.gather files).keys)
    (hl : l ∈ (o.gather files).keys) (hclash : k.Clash l) :
    ∃ p n, k = .type p n ∧ l = .function p n := by
  obtain ⟨file, hfile, hpackage⟩ := package_of_declares (o.mem_keys_gather.mp hk)
  obtain ⟨file', _, hpackage'⟩ := package_of_declares (o.mem_keys_gather.mp hl)
  have hne : ∀ x, k.packagePath ≠ l.packagePath ++ "." ++ x := by
    intro x
    rw [hpackage, hpackage']
    exact o.package_ne_package_dot (h file hfile)
  cases hclash with
  | name p n => exact ⟨p, n, rfl, rfl⟩
  | packageType p n => exact absurd rfl (hne n)
  | packageFunction p n => exact absurd rfl (hne n)
  | packageMethod p r n =>
    refine absurd ?_ (hne (r ++ "." ++ n))
    simp [Key.packagePath, String.append_assoc]
  | typeMethod p r n => exact absurd rfl (hne r)
  | functionMethod p r n => exact absurd rfl (hne r)

/-- A type, a function or a method of the root package never has the id of a package. -/
theorem root_symbol_id_ne_package_id (o : Origin) (files : List SourceFile) {k l : Key}
    (hk : k ∈ (o.gather files).types.keys ++ (o.gather files).functions.keys ++
      (o.gather files).methods.keys)
    (hroot : k.packagePath = o.modulePath) (hl : l ∈ (o.gather files).packages.keys) :
    k.id ≠ l.id := by
  have hkeyed := o.keyed_gather files
  have hsymbol : ∀ p, k ≠ .package p := by
    rintro p rfl
    rcases List.mem_append.mp hk with hk | hk
    · rcases List.mem_append.mp hk with hk | hk
      · obtain ⟨q, n, hq⟩ := hkeyed.type_of_mem hk
        cases hq
      · obtain ⟨q, n, hq⟩ := hkeyed.function_of_mem hk
        cases hq
    · obtain ⟨q, r, n, hq⟩ := hkeyed.method_of_mem hk
      cases hq
  obtain ⟨file, _, rfl⟩ := (o.mem_packages_gather files l).mp hl
  obtain ⟨x, hx⟩ := Key.id_eq_dot hsymbol
  intro hid
  rw [hx, hroot] at hid
  exact o.package_ne_module_dot file x hid.symm

/-- Where directories and names have no dot, a method never has the id of a package, a type
or a function. -/
theorem method_id_ne_other_id (o : Origin) {files : List SourceFile}
    (hdir : o.PlainDirectories files) (hname : o.PlainNames files) {k l : Key}
    (hk : k ∈ (o.gather files).methods.keys)
    (hl : l ∈ (o.gather files).packages.keys ++ (o.gather files).types.keys ++
      (o.gather files).functions.keys) : k.id ≠ l.id := by
  have hkeyed := o.keyed_gather files
  have hplain := o.plain_keys hname
  have hkmem : k ∈ (o.gather files).keys := List.mem_append_right _ hk
  have hlmem : l ∈ (o.gather files).keys := List.mem_append_left _ hl
  obtain ⟨p, r, n, rfl⟩ := hkeyed.method_of_mem hk
  intro hid
  rcases Key.eq_or_clash (hplain _ hkmem) (hplain _ hlmem) hid with rfl | hclash | hclash
  · exact (List.nodup_append.mp hkeyed.nodup_keys).2.2 _ hl _ hk rfl
  · obtain ⟨q, m, hq, _⟩ := o.clash_of_plainDirectories hdir hkmem hlmem hclash
    cases hq
  · obtain ⟨q, m, _, hq⟩ := o.clash_of_plainDirectories hdir hlmem hkmem hclash
    cases hq

/-- Where directories and names have no dot, ids are distinct exactly when no package has a
type and a function of one name. Then a symbol of the root package never has the id of a
package, and a method never has the id of anything but a method, whatever the path of the
module is. -/
theorem ids_are_distinct_unless_a_type_and_a_function_share_a_name (o : Origin)
    (files : List SourceFile) (hdir : o.PlainDirectories files) (hname : o.PlainNames files) :
    let s := o.gather files
    ((s.graph.components.map (·.id)).Nodup ↔
        ¬ ∃ p n, Key.type p n ∈ s.types.keys ∧ Key.function p n ∈ s.functions.keys) ∧
      (∀ k ∈ s.types.keys ++ s.functions.keys ++ s.methods.keys, k.packagePath = o.modulePath →
        ∀ l ∈ s.packages.keys, k.id ≠ l.id) ∧
      ∀ k ∈ s.methods.keys, ∀ l ∈ s.packages.keys ++ s.types.keys ++ s.functions.keys,
        k.id ≠ l.id := by
  intro s
  have hkeyed := o.keyed_gather files
  refine ⟨?_, ?_, ?_⟩
  · rw [hkeyed.nodup_ids_iff_no_clash (o.plain_keys hname)]
    constructor
    · rintro hclear ⟨p, n, htype, hfunction⟩
      exact hclear _ (Symbols.mem_keys.mpr (Or.inr (Or.inl htype))) _
        (Symbols.mem_keys.mpr (Or.inr (Or.inr (Or.inl hfunction)))) (.name p n)
    · intro hnone k hk l hl hclash
      obtain ⟨p, n, rfl, rfl⟩ := o.clash_of_plainDirectories hdir hk hl hclash
      exact hnone ⟨p, n, hkeyed.mem_keysFor hk, hkeyed.mem_keysFor hl⟩
  · intro k hk hroot l hl
    exact o.root_symbol_id_ne_package_id files hk hroot hl
  · intro k hk l hl
    exact o.method_id_ne_other_id hdir hname hk hl

/-- A package in a directory of the root, without a path of the module, that declares a type
and a function of one name. -/
theorem a_type_and_a_function_of_one_name_share_an_id :
    let tree : Node := .mk { kind := "source_file" }
      [.mk { kind := "type_declaration" }
        [.mk { kind := "type_spec" }
          [.mk { kind := "type_identifier", field := some "name", text := some "T" } [],
            .mk { kind := "struct_type", field := some "type" } []]],
       .mk { kind := "function_declaration" }
        [.mk { kind := "identifier", field := some "name", text := some "T" } []]]
    let o : Origin := ⟨"/", "/r", ""⟩
    let files : List SourceFile := [⟨"/r/a/x.go", tree⟩]
    o.PlainDirectories files ∧ o.PlainNames files ∧
      ¬ ((o.gather files).graph.components.map (·.id)).Nodup := by
  intro tree o files
  have hdirectory : o.directory ⟨"/r/a/x.go", tree⟩ = "a" := by subst o tree; decide +kernel
  have hdeclared : (o.declarations ⟨"/r/a/x.go", tree⟩).map Declaration.key? =
      [some (.type "/a" "T"), some (.function "/a" "T")] := by
    subst o tree; decide +kernel
  have htype : Key.type "/a" "T" ∈ (o.gather files).types.keys := by
    subst o files tree; decide +kernel
  have hfunction : Key.function "/a" "T" ∈ (o.gather files).functions.keys := by
    subst o files tree; decide +kernel
  have hdir : o.PlainDirectories files := by
    intro file hfile _
    rw [List.mem_singleton.mp hfile, hdirectory]
    decide
  have hname : o.PlainNames files := by
    intro file hfile d hd k hk
    rw [List.mem_singleton.mp hfile] at hd
    have hmem := List.mem_map_of_mem (f := Declaration.key?) hd
    rw [hdeclared, hk] at hmem
    simp only [List.mem_cons, Option.some.injEq, List.not_mem_nil, or_false] at hmem
    rcases hmem with rfl | rfl
    · intro n hn
      rw [List.mem_singleton.mp hn]
      decide
    · intro n hn
      rw [List.mem_singleton.mp hn]
      decide
  refine ⟨hdir, hname, ?_⟩
  rw [(ids_are_distinct_unless_a_type_and_a_function_share_a_name o files hdir hname).1]
  exact not_not_intro ⟨"/a", "T", htype, hfunction⟩

end Origin

end SourceAtlas
