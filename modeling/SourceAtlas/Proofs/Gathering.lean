-- The tables that a list of files leaves behind. The types, functions and methods come
-- from one stream of declarations, the packages from one file after the other, and every
-- entry stands under its own key.
import SourceAtlas.Proofs.TableLaws
import SourceAtlas.Symbol.Declaration

namespace SourceAtlas

/-! ## The run -/

/-- What the packages of a run are named from: the current directory, the base directory
and the path of the module. -/
structure Origin where
  here : String
  base : String
  modulePath : String

namespace Origin

/-- The tables before any file. -/
def start (o : Origin) : Symbols := { base := o.base, modulePath := o.modulePath }

/-- The tables after all files have been entered. -/
def gather (o : Origin) (files : List SourceFile) : Symbols :=
  files.foldl (fun s file => s.addFile o.here file) o.start

/-- The package that a file belongs to. -/
def package (o : Origin) (file : SourceFile) : String := o.start.packageOf o.here file.path

/-- The stream of declarations of a file. -/
def declarations (o : Origin) (file : SourceFile) : List Declaration :=
  file.tree.allDeclarations (o.package file) file.path

/-- The stream of declarations of a list of files. -/
def stream (o : Origin) (files : List SourceFile) : List Declaration :=
  files.flatMap o.declarations

theorem gather_snoc (o : Origin) (files : List SourceFile) (file : SourceFile) :
    o.gather (files ++ [file]) = (o.gather files).addFile o.here file := by
  simp [gather]

end Origin

/-! ## What a declaration changes -/

namespace Declaration

/-- The package that a declaration belongs to. -/
def package : Declaration → String
  | type t => t.package
  | plainType p _ => p
  | function f => f.package
  | method m => m.package

def asType? : Declaration → Option (Key × TypeDecl)
  | type t => some (t.key, t)
  | _ => none

def asFunction? : Declaration → Option (Key × FunctionDecl)
  | function f => some (f.key, f)
  | _ => none

def asMethod? : Declaration → Option (Key × MethodDecl)
  | method m => some (m.key, m)
  | _ => none

/-- The key that a declaration is entered under. -/
def key? : Declaration → Option Key
  | type t => some t.key
  | plainType _ _ => none
  | function f => some f.key
  | method m => some m.key

theorem key?_eq_some_iff {d : Declaration} {k : Key} :
    d.key? = some k ↔ (∃ t, d.asType? = some (k, t)) ∨ (∃ f, d.asFunction? = some (k, f)) ∨
      (∃ m, d.asMethod? = some (k, m)) := by
  cases d <;> simp [key?, asType?, asFunction?, asMethod?]

theorem packagePath_of_key? {d : Declaration} {k : Key} (h : d.key? = some k) :
    k.packagePath = d.package := by
  cases d <;> cases h <;> rfl

end Declaration

namespace Node

theorem package_typeSpec (package file : String) (spec : Node) :
    (typeSpec package file spec).package = package := by
  unfold typeSpec
  dsimp only
  split
  · rfl
  · split
    · rfl
    · split <;> rfl

/-- Every declaration of a file carries the package that the file was entered for. -/
theorem package_of_mem_declarations {package file : String} {node : Node} {d : Declaration}
    (h : d ∈ declarations package file node) : d.package = package := by
  unfold declarations at h
  split at h
  · obtain ⟨spec, _, rfl⟩ := List.mem_map.mp h
    exact package_typeSpec package file spec
  · split at h
    · rw [List.mem_singleton.mp h]
      rfl
    · split at h
      · rw [List.mem_singleton.mp h]
        rfl
      · cases h

end Node

theorem Origin.package_of_mem_declarations {o : Origin} {file : SourceFile} {d : Declaration}
    (h : d ∈ o.declarations file) : d.package = o.package file := by
  obtain ⟨node, _, hd⟩ := List.mem_flatMap.mp h
  exact Node.package_of_mem_declarations hd

namespace Symbols

/-- Declarations change neither the origin nor the packages. -/
theorem declareAll_frame (ds : List Declaration) (s : Symbols) :
    (ds.foldl declare s).base = s.base ∧ (ds.foldl declare s).modulePath = s.modulePath ∧
      (ds.foldl declare s).packages = s.packages := by
  induction ds generalizing s with
  | nil => exact ⟨rfl, rfl, rfl⟩
  | cons d ds ih =>
    obtain ⟨h1, h2, h3⟩ := ih (s.declare d)
    rw [List.foldl_cons, h1, h2, h3]
    cases d <;> exact ⟨rfl, rfl, rfl⟩

/-- A table that takes in the entries of single declarations takes in the entries of a
whole stream. -/
theorem view_declareAll {α : Type} (view : Symbols → Table Key α)
    (pick : Declaration → Option (Key × α))
    (hstep : ∀ s d, view (s.declare d) = (view s).insertAll (pick d).toList)
    (ds : List Declaration) (s : Symbols) :
    view (ds.foldl declare s) = (view s).insertAll (ds.filterMap pick) := by
  induction ds generalizing s with
  | nil => rfl
  | cons d ds ih =>
    rw [List.foldl_cons, ih, hstep, ← Table.insertAll_append]
    cases h : pick d <;> simp [h]

end Symbols

/-! ## What a file changes -/

namespace Symbols

theorem ensurePackage_frame (s : Symbols) (path name directory : String) :
    (s.ensurePackage path name directory).base = s.base ∧
      (s.ensurePackage path name directory).modulePath = s.modulePath ∧
      (s.ensurePackage path name directory).types = s.types ∧
      (s.ensurePackage path name directory).functions = s.functions ∧
      (s.ensurePackage path name directory).methods = s.methods := by
  unfold ensurePackage
  dsimp only
  split <;> exact ⟨rfl, rfl, rfl, rfl, rfl⟩

/-- The tables after the package of a file and its imports have been entered, and before
its declarations. -/
def enterPackage (s : Symbols) (package : String) (file : SourceFile) : Symbols :=
  (s.ensurePackage package file.tree.packageName (Path.directory file.path)).addImports
    package file.tree.foreignImports

theorem addFile_eq (s : Symbols) (here : String) (file : SourceFile) :
    s.addFile here file =
      (file.tree.allDeclarations (s.packageOf here file.path) file.path).foldl declare
        (s.enterPackage (s.packageOf here file.path) file) := rfl

theorem base_addFile (s : Symbols) (here : String) (file : SourceFile) :
    (s.addFile here file).base = s.base := by
  rw [addFile_eq, (declareAll_frame _ _).1]
  exact (ensurePackage_frame s _ _ _).1

theorem modulePath_addFile (s : Symbols) (here : String) (file : SourceFile) :
    (s.addFile here file).modulePath = s.modulePath := by
  rw [addFile_eq, (declareAll_frame _ _).2.1]
  exact (ensurePackage_frame s _ _ _).2.1

theorem packages_addFile (s : Symbols) (here : String) (file : SourceFile) :
    (s.addFile here file).packages =
      (s.enterPackage (s.packageOf here file.path) file).packages := by
  rw [addFile_eq, (declareAll_frame _ _).2.2]

end Symbols

namespace Origin

theorem gather_origin (o : Origin) (files : List SourceFile) :
    (o.gather files).base = o.base ∧ (o.gather files).modulePath = o.modulePath := by
  induction files using List.reverseRecOn with
  | nil => exact ⟨rfl, rfl⟩
  | append_singleton files file ih =>
    rw [gather_snoc, Symbols.base_addFile, Symbols.modulePath_addFile]
    exact ih

/-- A file is entered for the same package, whatever has been entered before it. -/
theorem packageOf_gather (o : Origin) (files : List SourceFile) (file : SourceFile) :
    (o.gather files).packageOf o.here file.path = o.package file := by
  unfold package Symbols.packageOf Symbols.packagePath
  rw [(o.gather_origin files).1, (o.gather_origin files).2]
  rfl

/-- A file is entered with its package first and its declarations after it. -/
theorem gather_enter (o : Origin) (files : List SourceFile) (file : SourceFile) :
    o.gather (files ++ [file]) =
      (o.declarations file).foldl Symbols.declare
        ((o.gather files).enterPackage (o.package file) file) := by
  rw [gather_snoc, Symbols.addFile_eq, packageOf_gather]
  rfl

/-- A table that packages do not touch is that of the stream of declarations. -/
theorem view_gather {α : Type} (o : Origin) (view : Symbols → Table Key α)
    (pick : Declaration → Option (Key × α)) (hstart : view o.start = {})
    (hpackage : ∀ s package file, view (s.enterPackage package file) = view s)
    (hstep : ∀ s d, view (s.declare d) = (view s).insertAll (pick d).toList)
    (files : List SourceFile) :
    view (o.gather files) = .ofStream ((o.stream files).filterMap pick) := by
  induction files using List.reverseRecOn with
  | nil => exact hstart
  | append_singleton files file ih =>
    rw [gather_enter, Symbols.view_declareAll view pick hstep, hpackage, ih]
    unfold Table.ofStream stream
    rw [← Table.insertAll_append, ← List.filterMap_append, List.flatMap_append,
      List.flatMap_singleton]

theorem types_gather (o : Origin) (files : List SourceFile) :
    (o.gather files).types = .ofStream ((o.stream files).filterMap Declaration.asType?) := by
  apply o.view_gather Symbols.types _ rfl
  · intro s package file
    exact (Symbols.ensurePackage_frame s _ _ _).2.2.1
  · intro s d
    cases d <;> rfl

theorem functions_gather (o : Origin) (files : List SourceFile) :
    (o.gather files).functions =
      .ofStream ((o.stream files).filterMap Declaration.asFunction?) := by
  apply o.view_gather Symbols.functions _ rfl
  · intro s package file
    exact (Symbols.ensurePackage_frame s _ _ _).2.2.2.1
  · intro s d
    cases d <;> rfl

theorem methods_gather (o : Origin) (files : List SourceFile) :
    (o.gather files).methods =
      .ofStream ((o.stream files).filterMap Declaration.asMethod?) := by
  apply o.view_gather Symbols.methods _ rfl
  · intro s package file
    exact (Symbols.ensurePackage_frame s _ _ _).2.2.2.2
  · intro s d
    cases d <;> rfl

end Origin

/-! ## Every entry stands under its own key -/

namespace Symbols

structure Keyed (s : Symbols) : Prop where
  packages : s.packages.Keyed Package.key
  types : s.types.Keyed TypeDecl.key
  functions : s.functions.Keyed FunctionDecl.key
  methods : s.methods.Keyed MethodDecl.key

theorem Keyed.package_type {s : Symbols} (h : s.Keyed) {k : Key} {t : TypeDecl}
    (he : (k, t) ∈ s.types.entries) : t.package = k.packagePath :=
  (congrArg Key.packagePath (h.types.own (k, t) he)).symm

theorem Keyed.package_function {s : Symbols} (h : s.Keyed) {k : Key} {f : FunctionDecl}
    (he : (k, f) ∈ s.functions.entries) : f.package = k.packagePath :=
  (congrArg Key.packagePath (h.functions.own (k, f) he)).symm

theorem Keyed.package_method {s : Symbols} (h : s.Keyed) {k : Key} {m : MethodDecl}
    (he : (k, m) ∈ s.methods.entries) : m.package = k.packagePath :=
  (congrArg Key.packagePath (h.methods.own (k, m) he)).symm

theorem Keyed.ensurePackage {s : Symbols} (h : s.Keyed) (path name directory : String) :
    (s.ensurePackage path name directory).Keyed := by
  unfold Symbols.ensurePackage
  dsimp only
  split
  · exact h
  · exact { h with packages := h.packages.insert { path, name, directory } }

theorem Keyed.addImports {s : Symbols} (h : s.Keyed) (path : String) (imports : List String) :
    (s.addImports path imports).Keyed :=
  { h with
    packages :=
      h.packages.modify (.package path) (fun p => { p with imports := p.imports ++ imports })
        fun _ => rfl }

theorem Keyed.declare {s : Symbols} (h : s.Keyed) (d : Declaration) : (s.declare d).Keyed := by
  cases d with
  | type t => exact { h with types := h.types.insert t }
  | plainType p n => exact h
  | function f => exact { h with functions := h.functions.insert f }
  | method m => exact { h with methods := h.methods.insert m }

theorem Keyed.declareAll {s : Symbols} (h : s.Keyed) (ds : List Declaration) :
    (ds.foldl Symbols.declare s).Keyed := by
  induction ds generalizing s with
  | nil => exact h
  | cons d ds ih => exact ih (h.declare d)

theorem Keyed.addFile {s : Symbols} (h : s.Keyed) (here : String) (file : SourceFile) :
    (s.addFile here file).Keyed :=
  ((h.ensurePackage _ _ _).addImports _ _).declareAll _

end Symbols

namespace Origin

theorem keyed_gather (o : Origin) (files : List SourceFile) : (o.gather files).Keyed := by
  induction files using List.reverseRecOn with
  | nil =>
    exact ⟨Table.keyed_empty _, Table.keyed_empty _, Table.keyed_empty _, Table.keyed_empty _⟩
  | append_singleton files file ih =>
    rw [gather_snoc]
    exact ih.addFile o.here file

end Origin

/-! ## All keys -/

namespace Symbols

/-- All keys of the tables, in the order of the components. -/
def keys (s : Symbols) : List Key :=
  s.packages.keys ++ s.types.keys ++ s.functions.keys ++ s.methods.keys

variable {s : Symbols}

theorem mem_keys {k : Key} :
    k ∈ s.keys ↔ k ∈ s.packages.keys ∨ k ∈ s.types.keys ∨ k ∈ s.functions.keys ∨
      k ∈ s.methods.keys := by
  simp [keys]

theorem packages_subset_keys : s.packages.keys ⊆ s.keys :=
  fun _ h => mem_keys.mpr (Or.inl h)

theorem types_subset_keys : s.types.keys ⊆ s.keys :=
  fun _ h => mem_keys.mpr (Or.inr (Or.inl h))

theorem functions_subset_keys : s.functions.keys ⊆ s.keys :=
  fun _ h => mem_keys.mpr (Or.inr (Or.inr (Or.inl h)))

theorem methods_subset_keys : s.methods.keys ⊆ s.keys :=
  fun _ h => mem_keys.mpr (Or.inr (Or.inr (Or.inr h)))

theorem Keyed.package_of_mem (h : s.Keyed) {k : Key} (hk : k ∈ s.packages.keys) :
    ∃ p, k = .package p := by
  obtain ⟨e, he, rfl⟩ := List.mem_map.mp hk
  exact ⟨e.2.path, h.packages.own e he⟩

theorem Keyed.type_of_mem (h : s.Keyed) {k : Key} (hk : k ∈ s.types.keys) :
    ∃ p n, k = .type p n := by
  obtain ⟨e, he, rfl⟩ := List.mem_map.mp hk
  exact ⟨e.2.package, e.2.name, h.types.own e he⟩

theorem Keyed.function_of_mem (h : s.Keyed) {k : Key} (hk : k ∈ s.functions.keys) :
    ∃ p n, k = .function p n := by
  obtain ⟨e, he, rfl⟩ := List.mem_map.mp hk
  exact ⟨e.2.package, e.2.name, h.functions.own e he⟩

theorem Keyed.method_of_mem (h : s.Keyed) {k : Key} (hk : k ∈ s.methods.keys) :
    ∃ p r n, k = .method p r n := by
  obtain ⟨e, he, rfl⟩ := List.mem_map.mp hk
  exact ⟨e.2.package, e.2.receiver, e.2.name, h.methods.own e he⟩

/-- The keys of the table that a key belongs in. -/
def keysFor (s : Symbols) : Key → List Key
  | .package _ => s.packages.keys
  | .type _ _ => s.types.keys
  | .function _ _ => s.functions.keys
  | .method _ _ _ => s.methods.keys

/-- A key stands in the table of its kind. -/
theorem Keyed.mem_keysFor (h : s.Keyed) {k : Key} (hk : k ∈ s.keys) : k ∈ s.keysFor k := by
  rcases mem_keys.mp hk with hk | hk | hk | hk
  · obtain ⟨p, rfl⟩ := h.package_of_mem hk
    exact hk
  · obtain ⟨p, n, rfl⟩ := h.type_of_mem hk
    exact hk
  · obtain ⟨p, n, rfl⟩ := h.function_of_mem hk
    exact hk
  · obtain ⟨p, r, n, rfl⟩ := h.method_of_mem hk
    exact hk

/-- No key stands in two tables or twice in one. -/
theorem Keyed.nodup_keys (h : s.Keyed) : s.keys.Nodup := by
  unfold keys
  refine List.nodup_append.mpr ⟨List.nodup_append.mpr ⟨List.nodup_append.mpr
    ⟨h.packages.nodup, h.types.nodup, ?_⟩, h.functions.nodup, ?_⟩, h.methods.nodup, ?_⟩
  · rintro k hk l hl rfl
    obtain ⟨p, rfl⟩ := h.package_of_mem hk
    obtain ⟨q, n, hq⟩ := h.type_of_mem hl
    cases hq
  · rintro k hk l hl rfl
    obtain ⟨q, n, rfl⟩ := h.function_of_mem hl
    rcases List.mem_append.mp hk with hk | hk
    · obtain ⟨p, hp⟩ := h.package_of_mem hk
      cases hp
    · obtain ⟨p, m, hp⟩ := h.type_of_mem hk
      cases hp
  · rintro k hk l hl rfl
    obtain ⟨q, r, n, rfl⟩ := h.method_of_mem hl
    rcases List.mem_append.mp hk with hk | hk
    · rcases List.mem_append.mp hk with hk | hk
      · obtain ⟨p, hp⟩ := h.package_of_mem hk
        cases hp
      · obtain ⟨p, m, hp⟩ := h.type_of_mem hk
        cases hp
    · obtain ⟨p, m, hp⟩ := h.function_of_mem hk
      cases hp

end Symbols

/-! ## Every key belongs to a file -/

namespace Origin

theorem mem_packages_gather (o : Origin) (files : List SourceFile) (k : Key) :
    k ∈ (o.gather files).packages.keys ↔ ∃ file ∈ files, k = .package (o.package file) := by
  induction files using List.reverseRecOn with
  | nil => simp [gather, start, Table.keys]
  | append_singleton files file ih =>
    rw [gather_snoc, Symbols.packages_addFile, packageOf_gather]
    have hstep : k ∈ ((o.gather files).enterPackage (o.package file) file).packages.keys ↔
        k = .package (o.package file) ∨ k ∈ (o.gather files).packages.keys := by
      unfold Symbols.enterPackage Symbols.addImports Symbols.ensurePackage
      rw [Table.keys_modify]
      dsimp only
      split
      · rename_i hin
        rw [Table.contains_iff] at hin
        constructor
        · exact Or.inr
        · rintro (rfl | h)
          · exact hin
          · exact h
      · exact Table.mem_keys_insert _ _ _ _
    rw [hstep, ih]
    simp [or_comm, or_and_right, exists_or]

theorem mem_keys_stream {α : Type} (o : Origin) (files : List SourceFile)
    (pick : Declaration → Option (Key × α)) (k : Key) :
    k ∈ (Table.ofStream ((o.stream files).filterMap pick)).keys ↔
      ∃ file ∈ files, ∃ d ∈ o.declarations file, ∃ a, pick d = some (k, a) := by
  rw [Table.mem_keys_ofStream, Table.mem_keys_filterMap]
  unfold stream
  constructor
  · rintro ⟨d, hd, hpick⟩
    obtain ⟨file, hfile, hd⟩ := List.mem_flatMap.mp hd
    exact ⟨file, hfile, d, hd, hpick⟩
  · rintro ⟨file, hfile, d, hd, hpick⟩
    exact ⟨d, List.mem_flatMap.mpr ⟨file, hfile, hd⟩, hpick⟩

/-- The types, functions and methods of the tables are the declared ones. -/
theorem mem_symbols_gather (o : Origin) (files : List SourceFile) (k : Key) :
    (k ∈ (o.gather files).types.keys ∨ k ∈ (o.gather files).functions.keys ∨
      k ∈ (o.gather files).methods.keys) ↔
      ∃ file ∈ files, ∃ d ∈ o.declarations file, d.key? = some k := by
  rw [types_gather, functions_gather, methods_gather, mem_keys_stream, mem_keys_stream,
    mem_keys_stream]
  simp only [Declaration.key?_eq_some_iff]
  constructor
  · rintro (⟨file, hf, d, hd, h⟩ | ⟨file, hf, d, hd, h⟩ | ⟨file, hf, d, hd, h⟩)
    · exact ⟨file, hf, d, hd, Or.inl h⟩
    · exact ⟨file, hf, d, hd, Or.inr (Or.inl h)⟩
    · exact ⟨file, hf, d, hd, Or.inr (Or.inr h)⟩
  · rintro ⟨file, hf, d, hd, h | h | h⟩
    · exact Or.inl ⟨file, hf, d, hd, h⟩
    · exact Or.inr (Or.inl ⟨file, hf, d, hd, h⟩)
    · exact Or.inr (Or.inr ⟨file, hf, d, hd, h⟩)

/-- A key that one of the files brings in: that of its package, or that of a declaration. -/
def Declares (o : Origin) (files : List SourceFile) (k : Key) : Prop :=
  ∃ file ∈ files, k = .package (o.package file) ∨ ∃ d ∈ o.declarations file, d.key? = some k

/-- The keys of all tables are those that the files bring in. -/
theorem mem_keys_gather (o : Origin) {files : List SourceFile} {k : Key} :
    k ∈ (o.gather files).keys ↔ o.Declares files k := by
  rw [Symbols.mem_keys, mem_packages_gather, mem_symbols_gather]
  constructor
  · rintro (⟨file, hfile, hk⟩ | ⟨file, hfile, hk⟩)
    · exact ⟨file, hfile, Or.inl hk⟩
    · exact ⟨file, hfile, Or.inr hk⟩
  · rintro ⟨file, hfile, hk | hk⟩
    · exact Or.inl ⟨file, hfile, hk⟩
    · exact Or.inr ⟨file, hfile, hk⟩

/-- Every key belongs to the package of a file. -/
theorem package_of_declares {o : Origin} {files : List SourceFile} {k : Key}
    (h : o.Declares files k) : ∃ file ∈ files, k.packagePath = o.package file := by
  obtain ⟨file, hfile, rfl | ⟨d, hd, hkey⟩⟩ := h
  · exact ⟨file, hfile, by simp only [Key.packagePath]⟩
  · exact ⟨file, hfile,
      (Declaration.packagePath_of_key? hkey).trans (package_of_mem_declarations hd)⟩

end Origin

end SourceAtlas
