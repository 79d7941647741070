-- How the tables merge what the files declare. A key stands where it first came in and holds
-- what came in last, a package keeps the name that its first file gave it, and the imports of
-- its files only add up.
import Mathlib.Data.List.DropRight
import SourceAtlas.Grammar.SourceText
import SourceAtlas.Proofs.ListLaws
import SourceAtlas.Proofs.PackageParts

namespace SourceAtlas

/-! ## First places and last values -/

namespace Table

variable {κ α : Type} [DecidableEq κ]

/-- The table is what a list of records merges into: the keys stand in the order in which they
first come, and each holds the last record under it. -/
structure Merges (key : α → κ) (records : List α) (t : Table κ α) : Prop where
  keys : t.keys = (records.map key).eraseDups
  last : ∀ k, t.get? k = (records.filter (key · = k)).getLast?

theorem merges_ofStream (key : α → κ) (records : List α) :
    (ofStream (records.map fun r => (key r, r))).Merges key records := by
  refine ⟨?_, ?_⟩
  · rw [keys_ofStream, List.map_map]
    rfl
  · intro k
    rw [get?_ofStream]
    unfold last?
    rw [List.filter_map, List.getLast?_map, Option.map_map]
    exact Option.map_id'

end Table

/-! ## The records of a file -/

namespace Node

/-- The kind of the symbol that a type expression defines. Only records and interfaces define
one. -/
def typeKind? (type : Node) : Option TypeKind :=
  if type.kind = "struct_type" then some .record
  else if type.kind = "interface_type" then some .interface
  else none

/-- The record of a type specification, when its type defines a symbol. -/
def typeRecord? (package file : String) (spec : Node) : Option TypeDecl :=
  (spec.child? "type").bind fun type =>
    type.typeKind?.map fun kind =>
      { name := textOf (spec.child? "name")
        package, kind, file
        line := spec.line
        fields := if kind = .record then type.fieldRefs package else []
        embeds := if kind = .record then type.embeds package else [] }

/-- The types of a file in source order, those of a group in their order. -/
def typeRecords (package file : String) (root : Node) : List TypeDecl :=
  (root.parts.filter (·.kind == "type_declaration")).flatMap fun decl =>
    (decl.parts.filter (·.kind == "type_spec")).filterMap (typeRecord? package file)

/-- The functions of a file in source order. -/
def functionRecords (package file : String) (root : Node) : List FunctionDecl :=
  (root.parts.filter (·.kind == "function_declaration")).map (functionDecl package file)

/-- The record of a method declaration. -/
def methodDecl (package file : String) (decl : Node) : MethodDecl :=
  { functionDecl package file decl with receiver := decl.receiver }

/-- The methods of a file in source order. -/
def methodRecords (package file : String) (root : Node) : List MethodDecl :=
  (root.parts.filter (·.kind == "method_declaration")).map (methodDecl package file)

theorem asType?_typeSpec (package file : String) (spec : Node) :
    (typeSpec package file spec).asType? =
      (typeRecord? package file spec).map fun t => (t.key, t) := by
  unfold typeSpec typeRecord? typeKind?
  dsimp only
  cases spec.child? "type" with
  | none => rfl
  | some type =>
    by_cases hrecord : type.kind = "struct_type"
    · simp [hrecord, Declaration.asType?]
    · by_cases hinterface : type.kind = "interface_type"
      · simp [hinterface, Declaration.asType?]
      · simp [hrecord, hinterface, Declaration.asType?]

/-- A type specification declares a type, whether or not it leaves a symbol. -/
theorem typeSpec_cases (package file : String) (spec : Node) :
    (∃ t, typeSpec package file spec = .type t) ∨
      ∃ p n, typeSpec package file spec = .plainType p n := by
  unfold typeSpec
  dsimp only
  split
  · exact Or.inr ⟨_, _, rfl⟩
  · split
    · exact Or.inl ⟨_, rfl⟩
    · split
      · exact Or.inl ⟨_, rfl⟩
      · exact Or.inr ⟨_, _, rfl⟩

/-- A top-level node declares types, a function or a method, and its kind says which. -/
theorem declarations_eq (package file : String) (decl : Node) :
    declarations package file decl =
      (if decl.kind == "type_declaration" then
        (decl.parts.filter (·.kind == "type_spec")).map (typeSpec package file) else []) ++
      (if decl.kind == "function_declaration" then
        [.function (functionDecl package file decl)] else []) ++
      (if decl.kind == "method_declaration" then
        [.method (methodDecl package file decl)] else []) := by
  unfold declarations
  by_cases htype : decl.kind = "type_declaration"
  · simp [htype]
  · by_cases hfunction : decl.kind = "function_declaration"
    · simp [hfunction]
    · by_cases hmethod : decl.kind = "method_declaration"
      · simp [hmethod, methodDecl]
      · simp [htype, hfunction, hmethod]

/-- What is picked from the stream of a file is picked from its top-level nodes, kind by kind. -/
theorem filterMap_allDeclarations {β : Type} (pick : Declaration → Option β)
    (package file : String) (root : Node) :
    (root.allDeclarations package file).filterMap pick =
      root.parts.flatMap fun decl =>
        (if decl.kind == "type_declaration" then
          (decl.parts.filter (·.kind == "type_spec")).filterMap (pick <| typeSpec package file ·)
          else []) ++
        (if decl.kind == "function_declaration" then
          (pick (.function (functionDecl package file decl))).toList else []) ++
        (if decl.kind == "method_declaration" then
          (pick (.method (methodDecl package file decl))).toList else []) := by
  have hone : ∀ d, [d].filterMap pick = (pick d).toList := by
    intro d
    cases h : pick d <;> simp [h]
  unfold allDeclarations
  rw [List.filterMap_flatMap]
  refine List.flatMap_congr fun decl _ => ?_
  rw [declarations_eq, List.filterMap_append, List.filterMap_append]
  simp only [apply_ite (List.filterMap pick), List.filterMap_map, List.filterMap_nil, hone]
  rfl

/-- The types in the stream of a file are its records of types. -/
theorem types_allDeclarations (package file : String) (root : Node) :
    (root.allDeclarations package file).filterMap Declaration.asType? =
      (root.typeRecords package file).map fun t => (t.key, t) := by
  unfold typeRecords
  rw [filterMap_allDeclarations, List.map_flatMap, flatMap_filter]
  refine List.flatMap_congr fun decl _ => ?_
  simp only [asType?_typeSpec, List.map_filterMap]
  simp [Declaration.asType?]

theorem functions_allDeclarations (package file : String) (root : Node) :
    (root.allDeclarations package file).filterMap Declaration.asFunction? =
      (root.functionRecords package file).map fun f => (f.key, f) := by
  have hspec : ∀ spec, (typeSpec package file spec).asFunction? = none := by
    intro spec
    rcases typeSpec_cases package file spec with ⟨t, h⟩ | ⟨p, n, h⟩ <;> rw [h] <;> rfl
  unfold functionRecords
  rw [filterMap_allDeclarations, List.map_map, List.map_eq_flatMap, flatMap_filter]
  refine List.flatMap_congr fun decl _ => ?_
  simp only [hspec]
  simp [Declaration.asFunction?]

theorem methods_allDeclarations (package file : String) (root : Node) :
    (root.allDeclarations package file).filterMap Declaration.asMethod? =
      (root.methodRecords package file).map fun m => (m.key, m) := by
  have hspec : ∀ spec, (typeSpec package file spec).asMethod? = none := by
    intro spec
    rcases typeSpec_cases package file spec with ⟨t, h⟩ | ⟨p, n, h⟩ <;> rw [h] <;> rfl
  unfold methodRecords
  rw [filterMap_allDeclarations, List.map_map, List.map_eq_flatMap, flatMap_filter]
  refine List.flatMap_congr fun decl _ => ?_
  simp only [hspec]
  simp [Declaration.asMethod?]

/-- The import specifications of a file in source order: those that stand alone in an import
declaration, and those of a group. -/
def allImportSpecs (root : Node) : List Node :=
  (root.parts.filter (·.kind == "import_declaration")).flatMap fun decl =>
    decl.parts.flatMap fun part =>
      if part.kind = "import_spec" then [part]
      else if part.kind = "import_spec_list" then part.parts.filter (·.kind == "import_spec")
      else []

/-- The path of an import specification: the text of its path less the quote characters, plain and
back ones, at the start and at the end. -/
def specPath (spec : Node) : String :=
  let text := ((spec.child? "path").bind (·.label.text)).getD ""
  let isMark := fun c : Char => c = '"' || c = '\x60'
  String.ofList ((text.toList.dropWhile isMark).rdropWhile isMark)

theorem importPath_eq_specPath : importPath = specPath := by
  funext spec
  have htext : textOf (spec.child? "path") =
      ((spec.child? "path").bind (·.label.text)).getD "" := by
    cases spec.child? "path" <;> rfl
  unfold importPath specPath Text.trim
  rw [htext]
  rfl

theorem foreignImports_eq (root : Node) :
    root.foreignImports =
      (root.allImportSpecs.map importPath).filter (!Import.isStandard ·) := by
  unfold foreignImports importPaths allImportSpecs
  rw [List.map_flatMap]
  refine congrArg (List.filter _) (List.flatMap_congr fun decl _ => congrArg (List.map _) ?_)
  unfold importSpecs
  rw [List.filter_flatMap]
  refine List.flatMap_congr fun part _ => ?_
  by_cases hgroup : part.kind = "import_spec_list"
  · simp [hgroup]
  · by_cases hone : part.kind = "import_spec" <;> simp [hgroup, hone]

end Node

/-! ## The records of all files -/

namespace Origin

/-- The records of a list of files, file after file. -/
def records {α : Type} (o : Origin) (recordsOf : String → String → Node → List α)
    (files : List SourceFile) : List α :=
  files.flatMap fun file => recordsOf (o.package file) file.path file.tree

theorem merges_stream {α : Type} (o : Origin) {pick : Declaration → Option (Key × α)}
    {key : α → Key} {recordsOf : String → String → Node → List α}
    (h : ∀ package file root, (Node.allDeclarations package file root).filterMap pick =
      (recordsOf package file root).map fun r => (key r, r)) (files : List SourceFile) :
    (Table.ofStream ((o.stream files).filterMap pick)).Merges key (o.records recordsOf files) := by
  have hstream : (o.stream files).filterMap pick =
      (o.records recordsOf files).map fun r => (key r, r) := by
    unfold stream records declarations
    rw [List.filterMap_flatMap, List.map_flatMap]
    exact List.flatMap_congr fun file _ => h (o.package file) file.path file.tree
  rw [hstream]
  exact Table.merges_ofStream key _

end Origin

/-! ## The packages -/

namespace Package

/-- A package after one more of its files. The file names a package that is new, and one that
is known only takes in the imports. -/
def afterFile (path : String) (known : Option Package) (file : SourceFile) : Package :=
  let start := known.getD
    { path, name := file.tree.packageName, directory := Path.directory file.path }
  { start with imports := start.imports ++ file.tree.foreignImports }

/-- The package that the files of one directory make, if there are any: the first one names it,
and each of them brings in its imports. -/
def merged? (path : String) (files : List SourceFile) : Option Package :=
  files.head?.map fun first =>
    { path
      name := first.tree.packageName
      directory := Path.directory first.path
      imports := files.flatMap fun file =>
        (file.tree.allImportSpecs.map Node.specPath).filter (!Import.isStandard ·) }

theorem merged?_snoc (path : String) (files : List SourceFile) (file : SourceFile) :
    merged? path (files ++ [file]) = some (afterFile path (merged? path files) file) := by
  unfold merged? afterFile
  simp only [← Node.importPath_eq_specPath, ← Node.foreignImports_eq]
  cases files with
  | nil => simp
  | cons first files => simp

end Package

namespace Symbols

theorem keys_enterPackage (s : Symbols) (p : String) (file : SourceFile) :
    (s.enterPackage p file).packages.keys =
      if Key.package p ∈ s.packages.keys then s.packages.keys
      else s.packages.keys ++ [.package p] := by
  unfold enterPackage addImports ensurePackage
  rw [Table.keys_modify]
  dsimp only
  simp only [Table.contains_iff]
  split
  · rfl
  · rename_i hnew
    rw [Table.keys_insert, if_neg hnew]

theorem get?_enterPackage (s : Symbols) (p : String) (file : SourceFile) (k : Key) :
    (s.enterPackage p file).packages.get? k =
      if k = .package p then some (.afterFile p (s.packages.get? k) file)
      else s.packages.get? k := by
  unfold enterPackage addImports ensurePackage
  rw [Table.get?_modify]
  dsimp only
  by_cases hk : k = .package p
  · subst hk
    unfold Table.contains Package.afterFile
    cases hget : s.packages.get? (.package p) with
    | none => simp [Table.get?_insert]
    | some known => simp [hget]
  · rw [if_neg hk, if_neg hk]
    split
    · rfl
    · rw [Table.get?_insert, if_neg hk]

end Symbols

namespace Origin

/-- The packages stand in the order of their first files. -/
theorem keys_packages_gather (o : Origin) (files : List SourceFile) :
    (o.gather files).packages.keys =
      (files.map fun file => Key.package (o.package file)).eraseDups := by
  induction files using List.reverseRecOn with
  | nil => rfl
  | append_singleton files file ih =>
    rw [gather_snoc, Symbols.packages_addFile, packageOf_gather, Symbols.keys_enterPackage, ih,
      List.map_append, List.map_singleton, Table.eraseDups_snoc]
    simp only [List.mem_eraseDups]

/-- A package is made by its own files alone. -/
theorem get?_packages_gather (o : Origin) (files : List SourceFile) (p : String) :
    (o.gather files).packages.get? (.package p) = Package.merged? p (o.filesOf p files) := by
  induction files using List.reverseRecOn with
  | nil => rfl
  | append_singleton files file ih =>
    rw [gather_snoc, Symbols.packages_addFile, packageOf_gather, Symbols.get?_enterPackage, ih]
    unfold filesOf
    rw [List.filter_append]
    by_cases h : o.package file = p
    · subst h
      rw [if_pos rfl, ← Package.merged?_snoc]
      simp
    · have hne : Key.package p ≠ .package (o.package file) := fun hk => h (Key.package.inj hk).symm
      rw [if_neg hne]
      simp [h]

/-! ## The law -/

/-- The tables of a run, exactly. A type, a function or a method stands where its key was first
declared and holds its last declaration. A package stands where its first file was entered, has
the name and the directory of that file, and has the imports of all its files one after the
other. Every entry stands under its own key. -/
theorem tables_merge_the_declarations_of_all_files (o : Origin) (files : List SourceFile) :
    let s := o.gather files
    s.types.Merges TypeDecl.key (o.records Node.typeRecords files) ∧
      s.functions.Merges FunctionDecl.key (o.records Node.functionRecords files) ∧
      s.methods.Merges MethodDecl.key (o.records Node.methodRecords files) ∧
      s.packages.keys = (files.map fun file => Key.package (o.package file)).eraseDups ∧
      (∀ p, s.packages.get? (.package p) = Package.merged? p (files.filter (o.package · = p))) ∧
      s.Keyed := by
  intro s
  refine ⟨?_, ?_, ?_, o.keys_packages_gather files, o.get?_packages_gather files,
    o.keyed_gather files⟩
  · rw [o.types_gather files]
    exact o.merges_stream Node.types_allDeclarations files
  · rw [o.functions_gather files]
    exact o.merges_stream Node.functions_allDeclarations files
  · rw [o.methods_gather files]
    exact o.merges_stream Node.methods_allDeclarations files

/-- Two files of one package. The imports stand alone and in a group, between quotes of both kinds,
and one of them is there twice. -/
def importingFiles : List SourceFile :=
  let first := "package a\n\nimport \"m.x/b\"\nimport (\n\t\"fmt\"\n\t\x60m.x/c\x60\n)\n"
  let second := "package z\n\nimport \"m.x/b\"\n"
  [⟨"/a.go", Grammar.parseBytes first.toUTF8⟩, ⟨"/z.go", Grammar.parseBytes second.toUTF8⟩]

/-- The first file names the package. All imports come in without their quotes, the one that is
repeated too, and the standard one does not. -/
theorem imports_come_in_without_their_quotes :
    ((⟨"/", "/", "m.x"⟩ : Origin).gather importingFiles).packages.get? (.package "m.x") =
      some
        { path := "m.x", name := "a", directory := "/"
          imports := ["m.x/b", "m.x/c", "m.x/b"] } := by
  obtain ⟨_, _, _, _, hpackages, _⟩ :=
    tables_merge_the_declarations_of_all_files ⟨"/", "/", "m.x"⟩ importingFiles
  rw [hpackages]
  decide +kernel

end Origin

end SourceAtlas
