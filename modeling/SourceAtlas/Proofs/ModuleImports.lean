-- Imports from inside the module. A path counts as one of the standard library by its first
-- component alone, and a path inside the module shares that of the module. So either every
-- import from inside the module has its link, or none has.
import SourceAtlas.Proofs.LinkEnds
import SourceAtlas.Proofs.Merging

namespace SourceAtlas

/-! ## Paths of the standard library -/

namespace Import

/-- The path is that of the module or lies below it. -/
def Inside (modulePath path : String) : Prop :=
  path = modulePath ∨ Text.startsWith path (modulePath ++ "/") = true

theorem takeWhile_append_slash (cs ds : List Char) :
    (cs ++ '/' :: ds).takeWhile (· != '/') = cs.takeWhile (· != '/') := by
  induction cs with
  | nil => simp
  | cons c cs ih =>
    by_cases h : c = '/'
    · simp [h]
    · simp [h, ih]

theorem host_of_inside {modulePath path : String} (h : Inside modulePath path) :
    host path = host modulePath := by
  rcases h with rfl | h
  · rfl
  · obtain ⟨rest, hrest⟩ := List.isPrefixOf_iff_prefix.mp h
    unfold host
    rw [← hrest]
    simp [takeWhile_append_slash]

theorem startsWith_of_inside {modulePath path : String} (h : Inside modulePath path) :
    Text.startsWith path modulePath = true := by
  unfold Text.startsWith
  rw [List.isPrefixOf_iff_prefix]
  rcases h with rfl | h
  · exact List.prefix_rfl
  · have hslash := List.isPrefixOf_iff_prefix.mp h
    rw [String.toList_append] at hslash
    exact (List.prefix_append _ _).trans hslash

theorem host_subset (path : String) : host path ⊆ path.toList := List.takeWhile_subset _

/-- In a path with a dot in its first component, a name space without a dot holds only when
it has no slash and begins that component. -/
theorem inSpace_iff {path space : String} (hdot : '.' ∈ host path) (hspace : '.' ∉ space.toList) :
    inSpace path space = true ↔ '/' ∉ space.toList ∧ space.toList <+: host path := by
  unfold inSpace Text.startsWith
  rw [Bool.or_eq_true, List.isPrefixOf_iff_prefix, beq_iff_eq]
  constructor
  · rintro (hbegin | hstem)
    · obtain ⟨rest, hrest⟩ := hbegin
      by_cases hslash : '/' ∈ space.toList
      · -- the first component would end inside the name space, which has no dot
        exfalso
        obtain ⟨before, after, hsplit⟩ := List.append_of_mem hslash
        have hhost : host path = before.takeWhile (· != '/') := by
          unfold host
          rw [← hrest, hsplit, List.append_assoc, List.cons_append, takeWhile_append_slash]
        rw [hhost] at hdot
        apply hspace
        rw [hsplit]
        exact List.mem_append_left _ (List.takeWhile_subset _ hdot)
      · refine ⟨hslash, rest.takeWhile (· != '/'), ?_⟩
        unfold host
        rw [← hrest, List.takeWhile_append_of_pos]
        intro c hc
        simpa using fun he : c = '/' => hslash (he ▸ hc)
    · exfalso
      apply hspace
      have hdropped := host_subset path hdot
      rw [hstem] at hdropped
      exact List.mem_reverse.mp
        (List.dropWhile_subset _ (List.mem_reverse.mp hdropped))
  · rintro ⟨_, hbegin⟩
    exact Or.inl (hbegin.trans (List.takeWhile_prefix _))

/-- A path is one of the standard library unless its first component has a dot and begins with
none of the names that have no slash. -/
theorem isStandard_eq_false_iff (path : String) :
    isStandard path = false ↔
      '.' ∈ host path ∧
        ∀ space ∈ standardSpaces, '/' ∉ space.toList → ¬ space.toList <+: host path := by
  have hplain : ∀ space ∈ standardSpaces, '.' ∉ space.toList := by decide
  unfold isStandard
  simp only [Bool.or_eq_false_iff, Bool.not_eq_false', List.contains_iff_mem]
  refine and_congr_right fun hdot => ?_
  rw [List.any_eq_false]
  refine forall₂_congr fun space hspace => ?_
  rw [inSpace_iff hdot (hplain space hspace), not_and]

/-- The first component alone decides. -/
theorem isStandard_congr {a b : String} (h : host a = host b) : isStandard a = isStandard b := by
  rw [Bool.eq_iff_iff, ← not_iff_not, Bool.not_eq_true, Bool.not_eq_true,
    isStandard_eq_false_iff, isStandard_eq_false_iff, h]

end Import

/-! ## The links of imports -/

theorem Symbols.mem_importLinks {s : Symbols} {p path : String} :
    ({ source := p, target := path, kind := .imports } : Link) ∈ s.graph.links ↔
      ∃ e ∈ s.packages.entries, e.1.id = p ∧ path ∈ e.2.imports ∧
        Text.startsWith path s.modulePath = true := by
  have hpass : ({ source := p, target := path, kind := .imports } : Link) ∈ s.graph.links ↔
      { source := p, target := path, kind := .imports } ∈ s.importLinks := by
    rw [← importLinks_graph, List.mem_filter]
    simp
  rw [hpass]
  unfold importLinks
  simp only [List.mem_flatMap, List.mem_map, List.mem_filter, Link.mk.injEq, and_true]
  constructor
  · rintro ⟨e, he, other, ⟨hin, hbegin⟩, hsource, rfl⟩
    exact ⟨e, he, hsource, hin, hbegin⟩
  · rintro ⟨e, he, hsource, hin, hbegin⟩
    exact ⟨e, he, path, ⟨hin, hbegin⟩, hsource, rfl⟩

theorem Package.mem_imports_of_merged? {p path : String} {files : List SourceFile} {pkg : Package}
    (h : merged? p files = some pkg) :
    path ∈ pkg.imports ↔ ∃ file ∈ files, path ∈ file.tree.foreignImports := by
  obtain ⟨first, _, rfl⟩ := Option.map_eq_some_iff.mp h
  simp only [← Node.importPath_eq_specPath, ← Node.foreignImports_eq, List.mem_flatMap]

namespace Origin

/-- A package has a link to each import that one of its files keeps and that begins with the
path of the module, and to no other. -/
theorem mem_importLinks_iff (o : Origin) (files : List SourceFile) (p path : String) :
    ({ source := p, target := path, kind := .imports } : Link) ∈ (o.gather files).graph.links ↔
      (∃ file ∈ files, o.package file = p ∧ path ∈ file.tree.foreignImports) ∧
        Text.startsWith path o.modulePath = true := by
  have hkeyed := (o.keyed_gather files).packages
  rw [Symbols.mem_importLinks, (o.gather_origin files).2]
  constructor
  · rintro ⟨⟨key, pkg⟩, he, hid, hin, hbegin⟩
    obtain rfl : key = .package pkg.path := hkeyed.own _ he
    obtain rfl : pkg.path = p := hid
    have hget := (Table.mem_entries_iff hkeyed.nodup _ _).mp he
    rw [get?_packages_gather] at hget
    obtain ⟨file, hfile, hkept⟩ := (Package.mem_imports_of_merged? hget).mp hin
    obtain ⟨hfile, hpackage⟩ := List.mem_filter.mp hfile
    exact ⟨⟨file, hfile, of_decide_eq_true hpackage, hkept⟩, hbegin⟩
  · rintro ⟨⟨file, hfile, rfl, hkept⟩, hbegin⟩
    have hknown := (o.mem_packages_gather files _).mpr ⟨file, hfile, rfl⟩
    obtain ⟨⟨key, pkg⟩, he, rfl⟩ := List.mem_map.mp hknown
    have hget := (Table.mem_entries_iff hkeyed.nodup _ _).mp he
    rw [get?_packages_gather] at hget
    refine ⟨_, he, rfl, (Package.mem_imports_of_merged? hget).mpr ⟨file, ?_, hkept⟩, hbegin⟩
    exact List.mem_filter.mpr ⟨hfile, decide_eq_true rfl⟩

theorem package_component (o : Origin) {files : List SourceFile} {file : SourceFile}
    (hfile : file ∈ files) :
    ∃ c ∈ (o.gather files).graph.components, c.entity = .package ∧ c.id = o.package file := by
  have hknown := (o.mem_packages_gather files _).mpr ⟨file, hfile, rfl⟩
  obtain ⟨c, hc, hid, hentity⟩ :=
    (o.keyed_gather files).component_of_key (Symbols.packages_subset_keys hknown)
  exact ⟨c, hc, hentity, hid⟩

/-- An import from inside the module has its link exactly when the path of the module is none of
the standard library: its first component has a dot and begins with none of the names of the
standard library that have no slash. Otherwise every import from inside the module is dropped. -/
theorem imports_from_inside_are_linked_unless_the_module_looks_standard (o : Origin)
    (files : List SourceFile) :
    let s := o.gather files
    (∀ file ∈ files, ∀ spec ∈ file.tree.allImportSpecs,
      Import.Inside o.modulePath spec.importPath →
      (∃ c ∈ s.graph.components, c.entity = .package ∧ c.id = o.package file) ∧
      (({ source := o.package file, target := spec.importPath, kind := .imports } : Link) ∈
          s.graph.links ↔ Import.isStandard o.modulePath = false)) ∧
    (Import.isStandard o.modulePath = false ↔
      '.' ∈ Import.host o.modulePath ∧
        ∀ space ∈ Import.standardSpaces, '/' ∉ space.toList →
          ¬ space.toList <+: Import.host o.modulePath) := by
  intro s
  refine ⟨?_, Import.isStandard_eq_false_iff o.modulePath⟩
  intro file hfile spec hspec hinside
  have hsame : Import.isStandard spec.importPath = Import.isStandard o.modulePath :=
    Import.isStandard_congr (Import.host_of_inside hinside)
  refine ⟨o.package_component hfile, ?_⟩
  rw [o.mem_importLinks_iff files]
  constructor
  · rintro ⟨⟨other, _, _, hkept⟩, _⟩
    rw [Node.foreignImports_eq] at hkept
    rw [← hsame]
    simpa using (List.mem_filter.mp hkept).2
  · intro hforeign
    refine ⟨⟨file, hfile, rfl, ?_⟩, Import.startsWith_of_inside hinside⟩
    rw [Node.foreignImports_eq]
    refine List.mem_filter.mpr ⟨List.mem_map_of_mem hspec, ?_⟩
    rw [hsame, hforeign]
    rfl

/-- A file in the directory `api` that imports the package `store` of the same module. -/
def importingFile (modulePath : String) : SourceFile :=
  ⟨"/r/api/api.go", .mk { kind := "source_file" }
    [.singleImport ("\"" ++ modulePath ++ "/store\"")]⟩

/-- The link from the package of that file to the package that it imports. -/
def importLink (modulePath : String) : Link :=
  { source := modulePath ++ "/api", target := modulePath ++ "/store", kind := .imports }

theorem importingFile_spec : ∀ m ∈ ["app", "io.example/app", "example.com/app"],
    ∃ spec ∈ (importingFile m).tree.allImportSpecs, spec.importPath = m ++ "/store" ∧
      Import.Inside m spec.importPath ∧
      (⟨"/", "/r", m⟩ : Origin).package (importingFile m) = m ++ "/api" := by
  intro m hm
  simp only [List.mem_cons, List.not_mem_nil, or_false] at hm
  rcases hm with rfl | rfl | rfl
  · exact ⟨_, List.mem_singleton.mpr rfl, by decide +kernel, Or.inr (by decide +kernel),
      by decide +kernel⟩
  · exact ⟨_, List.mem_singleton.mpr rfl, by decide +kernel, Or.inr (by decide +kernel),
      by decide +kernel⟩
  · exact ⟨_, List.mem_singleton.mpr rfl, by decide +kernel, Or.inr (by decide +kernel),
      by decide +kernel⟩

/-- The import from inside the module `example.com/app` has its link. -/
theorem an_import_from_inside_is_linked :
    importLink "example.com/app" ∈ ((⟨"/", "/r", "example.com/app"⟩ : Origin).gather
      [importingFile "example.com/app"]).graph.links := by
  obtain ⟨spec, hspec, hpath, hinside, hpackage⟩ :=
    importingFile_spec "example.com/app" (by decide)
  have hlaw := imports_from_inside_are_linked_unless_the_module_looks_standard
    ⟨"/", "/r", "example.com/app"⟩ [importingFile "example.com/app"]
  have hlink := (hlaw.1 _ List.mem_cons_self spec hspec hinside).2.mpr (by decide +kernel)
  rw [hpackage, hpath] at hlink
  exact hlink

/-- Every import from inside the module has its link. -/
def OwnImportsLinked (o : Origin) (files : List SourceFile) : Prop :=
  ∀ file ∈ files, ∀ spec ∈ file.tree.allImportSpecs, Import.Inside o.modulePath spec.importPath →
    ({ source := o.package file, target := spec.importPath, kind := .imports } : Link) ∈
      (o.gather files).graph.links

theorem not_ownImportsLinked {m : String} (hm : m ∈ ["app", "io.example/app", "example.com/app"])
    (hdropped : importLink m ∉
      ((⟨"/", "/r", m⟩ : Origin).gather [importingFile m]).graph.links) :
    ¬ (⟨"/", "/r", m⟩ : Origin).OwnImportsLinked [importingFile m] := by
  obtain ⟨spec, hspec, hpath, hinside, hpackage⟩ := importingFile_spec m hm
  intro hall
  have hlink := hall _ List.mem_cons_self spec hspec hinside
  rw [hpackage, hpath] at hlink
  exact hdropped hlink

/-- A module without a dot in the first component of its path loses the import, and so does one
whose path begins with a name of the standard library. -/
theorem an_import_from_inside_may_be_dropped :
    ¬ (⟨"/", "/r", "app"⟩ : Origin).OwnImportsLinked [importingFile "app"] ∧
      ¬ (⟨"/", "/r", "io.example/app"⟩ : Origin).OwnImportsLinked
        [importingFile "io.example/app"] :=
  ⟨not_ownImportsLinked (by decide) (by decide +kernel),
    not_ownImportsLinked (by decide) (by decide +kernel)⟩

end Origin

end SourceAtlas
