-- The links between types, from the syntax trees to the graph. A type has a link for each
-- field declaration of the record that was declared last under its key, when the type of the
-- field comes down to a known type of the same package, and no link besides.
import SourceAtlas.Proofs.Containment
import SourceAtlas.Proofs.Merging
import SourceAtlas.Proofs.SharedIds
import SourceAtlas.Proofs.TypeExpressions

namespace SourceAtlas

/-! ## The fields of a type -/

namespace Node

/-- The types that a file declares with their type expressions, in source order. Only records
and interfaces count. -/
def typeExpressions (package : String) (root : Node) : List (Key × Node) :=
  (root.parts.filter (·.kind == "type_declaration")).flatMap fun decl =>
    (decl.parts.filter (·.kind == "type_spec")).filterMap fun spec =>
      (spec.child? "type").bind fun type =>
        type.typeKind?.map fun _ => (.type package (textOf (spec.child? "name")), type)

/-- The field declarations of a type expression. Only a record has any. -/
def memberFields (type : Node) : List Node :=
  if type.kind = "struct_type" then type.fieldDecls else []

/-- The type name that a field declaration embeds. -/
def embedName? (package : String) (field : Node) : Option String :=
  let type := field.fieldType package
  if type.name != "" && (field.childrenAt "name").isEmpty then some type.name else none

/-- The named fields of a field declaration. -/
def namedRefs (package : String) (field : Node) : List FieldRef :=
  let type := field.fieldType package
  if type.name != "" then
    (field.childrenAt "name").map fun name => ⟨name.text, type.name, type.package⟩
  else []

/-- What a type expression says about other types. -/
def dependencies (package : String) (type : Node) :
    Option TypeKind × List String × List FieldRef :=
  (type.typeKind?, type.memberFields.filterMap (embedName? package),
    type.memberFields.flatMap (namedRefs package))

end Node

/-- What a declared type says about other types. -/
def TypeDecl.dependencies (t : TypeDecl) : Option TypeKind × List String × List FieldRef :=
  (some t.kind, t.embeds, t.fields)

theorem Node.dependencies_typeRecord? (package file : String) (spec : Node) :
    (typeRecord? package file spec).map (fun t => (t.key, t.dependencies)) =
      ((spec.child? "type").bind fun type =>
        type.typeKind?.map fun _ => (Key.type package (textOf (spec.child? "name")), type)).map
          fun e => (e.1, e.2.dependencies e.1.packagePath) := by
  unfold typeRecord?
  cases spec.child? "type" with
  | none => rfl
  | some type =>
    by_cases hrecord : type.kind = "struct_type"
    · have hkind : type.typeKind? = some .record := by simp [typeKind?, hrecord]
      simp only [Option.bind_some, hkind, Option.map_some, if_true]
      simp only [TypeDecl.dependencies, dependencies, memberFields, hkind, hrecord, if_true]
      rfl
    · by_cases hinterface : type.kind = "interface_type"
      · have hkind : type.typeKind? = some .interface := by simp [typeKind?, hinterface]
        simp [hkind, TypeDecl.dependencies, dependencies, memberFields, hrecord, TypeDecl.key]
      · simp [typeKind?, hrecord, hinterface]

namespace Origin

/-- The types of a list of files with their type expressions, in source order. -/
def typeExpressions (o : Origin) (files : List SourceFile) : List (Key × Node) :=
  files.flatMap fun file => file.tree.typeExpressions (o.package file)

/-- The field declarations of the record that was declared last under a key. An interface has
none. -/
def lastFields (o : Origin) (files : List SourceFile) (key : Key) : List Node :=
  ((Table.last? (o.typeExpressions files) key).map Node.memberFields).getD []

theorem dependencies_stream (o : Origin) (files : List SourceFile) :
    ((o.stream files).filterMap Declaration.asType?).map (fun e => (e.1, e.2.dependencies)) =
      (o.typeExpressions files).map fun e => (e.1, e.2.dependencies e.1.packagePath) := by
  unfold stream typeExpressions declarations
  rw [List.filterMap_flatMap, List.map_flatMap, List.map_flatMap]
  refine List.flatMap_congr fun file _ => ?_
  rw [Node.types_allDeclarations, List.map_map]
  unfold Node.typeRecords Node.typeExpressions
  rw [List.map_flatMap, List.map_flatMap]
  refine List.flatMap_congr fun decl _ => ?_
  rw [List.map_filterMap, List.map_filterMap]
  refine List.filterMap_congr fun spec _ => ?_
  exact Node.dependencies_typeRecord? (o.package file) file.path spec

/-- What the tables hold for a type comes from the fields of its last declaration. -/
theorem dependencies_of_mem_types (o : Origin) (files : List SourceFile) {key : Key} {t : TypeDecl}
    (h : (key, t) ∈ (o.gather files).types.entries) :
    (t.kind = .interface → o.lastFields files key = []) ∧
      t.embeds = (o.lastFields files key).filterMap (Node.embedName? key.packagePath) ∧
      t.fields = (o.lastFields files key).flatMap (Node.namedRefs key.packagePath) := by
  have hget := (Table.mem_entries_iff (o.keyed_gather files).types.nodup key t).mp h
  rw [types_gather, Table.get?_ofStream] at hget
  have hlast : (Table.last? (o.typeExpressions files) key).map
      (Node.dependencies key.packagePath) = some t.dependencies := by
    rw [← Table.last?_mapKey fun (k : Key) type => Node.dependencies k.packagePath type,
      ← dependencies_stream, Table.last?_map, hget]
    rfl
  obtain ⟨type, htype, hsame⟩ := Option.map_eq_some_iff.mp hlast
  have hfields : o.lastFields files key = type.memberFields := by
    unfold lastFields
    rw [htype]
    rfl
  simp only [Node.dependencies, TypeDecl.dependencies, Prod.mk.injEq] at hsame
  obtain ⟨hkind, hembeds, hrefs⟩ := hsame
  rw [hfields]
  refine ⟨?_, hembeds.symm, hrefs.symm⟩
  intro hinterface
  unfold Node.memberFields
  rw [if_neg]
  intro hrecord
  simp [Node.typeKind?, hrecord, hinterface] at hkind

end Origin

/-! ## The links of a field -/

/-- The link of a kind from a type to the type of its package that has the given name. -/
def Key.typeLink (key : Key) (kind : LinkKind) (name : String) : Link :=
  { source := key.id, target := (Key.type key.packagePath name).id, kind }

namespace Symbols

variable {s : Symbols}

/-- The name is none of the language itself, and the package has a type of that name. -/
def Known (s : Symbols) (package name : String) : Prop :=
  name ∉ TypeName.primitives ∧ Key.type package name ∈ s.types.keys

instance (s : Symbols) (package name : String) : Decidable (s.Known package name) :=
  inferInstanceAs (Decidable (_ ∧ _))

/-- The link that a field declaration gives to a type. For a field that is embedded only the
name of its type counts; for a named field the type has to be one of the package as well. -/
def fieldLink? (s : Symbols) (kind : LinkKind) (key : Key) (field : Node) : Option Link :=
  let type := field.fieldType key.packagePath
  if type.name ≠ "" ∧ (kind = .uses → type.package = key.packagePath) ∧
      s.Known key.packagePath type.name then
    some (key.typeLink kind type.name)
  else none

theorem fieldLink?_eq_some_iff {kind : LinkKind} {key : Key} {field : Node} {l : Link} :
    s.fieldLink? kind key field = some l ↔
      ∃ type name qualifier, field.child? "type" = some type ∧
        type.Denotes key.packagePath name qualifier ∧
        (kind = .uses → qualifier = key.packagePath) ∧ name ≠ "" ∧
        s.Known key.packagePath name ∧ l = key.typeLink kind name := by
  unfold fieldLink?
  constructor
  · intro h
    dsimp only at h
    split at h
    · rename_i hguard
      obtain ⟨hname, hqualifier, hknown⟩ := hguard
      obtain ⟨type, htype, hdenotes⟩ := (Node.fieldType_eq_iff hname).mp (Eq.refl _)
      cases h
      exact ⟨type, _, _, htype, hdenotes, hqualifier, hname, hknown, rfl⟩
    · cases h
  · rintro ⟨type, name, qualifier, htype, hdenotes, hqualifier, hname, hknown, rfl⟩
    have hfield := (Node.fieldType_eq_iff hname).mpr ⟨type, htype, hdenotes⟩
    rw [hfield]
    dsimp only
    rw [if_pos ⟨hname, hqualifier, hknown⟩]

theorem declaredType?_eq (s : Symbols) (package name : String) :
    s.declaredType? package name =
      if s.Known package name then some (.type package name) else none := by
  have hknown : (!TypeName.isPrimitive name && s.hasType package name) = true ↔
      s.Known package name := by
    unfold Known hasType
    rw [← Table.contains_iff]
    simp [TypeName.isPrimitive]
  unfold declaredType?
  simp only [hknown]

theorem embedLinks_eq (s : Symbols) (key : Key) (fields : List Node) :
    ((fields.filterMap (Node.embedName? key.packagePath)).filterMap fun name =>
      (s.declaredType? key.packagePath name).map fun target =>
        ({ source := key.id, target := target.id, kind := .embeds } : Link)) =
      (fields.filter fun field => (field.childrenAt "name").isEmpty).filterMap
        (s.fieldLink? .embeds key) := by
  rw [List.filterMap_filterMap, List.filterMap_filter]
  refine List.filterMap_congr fun field _ => ?_
  unfold Node.embedName? fieldLink?
  by_cases hempty : (field.childrenAt "name").isEmpty = true
  · by_cases hname : (field.fieldType key.packagePath).name = ""
    · simp [hempty, hname]
    · by_cases hknown : s.Known key.packagePath (field.fieldType key.packagePath).name
      · simp [hempty, hname, hknown, declaredType?_eq, Key.typeLink]
      · simp [hempty, hname, hknown, declaredType?_eq]
  · simp [hempty]

theorem useLinks_eq (s : Symbols) (key : Key) (fields : List Node) :
    ((fields.flatMap (Node.namedRefs key.packagePath)).filterMap fun field =>
      if field.typePackage = key.packagePath then
        (s.declaredType? key.packagePath field.typeName).map fun target =>
          ({ source := key.id, target := target.id, kind := .uses } : Link)
      else none) =
      fields.flatMap fun field =>
        (field.childrenAt "name").filterMap fun _ => s.fieldLink? .uses key field := by
  rw [List.filterMap_flatMap]
  refine List.flatMap_congr fun field _ => ?_
  unfold Node.namedRefs fieldLink?
  by_cases hname : (field.fieldType key.packagePath).name = ""
  · simp [hname]
  · simp only [bne_iff_ne, ne_eq, hname, not_false_eq_true, if_true, true_and,
      List.filterMap_map]
    refine List.filterMap_congr fun name _ => ?_
    by_cases hpackage : (field.fieldType key.packagePath).package = key.packagePath
    · by_cases hknown : s.Known key.packagePath (field.fieldType key.packagePath).name
      · simp [hpackage, hknown, declaredType?_eq, Key.typeLink]
      · simp [hpackage, hknown, declaredType?_eq]
    · simp [hpackage]

end Symbols

/-! ## The links of all types -/

namespace Origin

theorem typeLinks_gather (o : Origin) (files : List SourceFile) :
    (o.gather files).typeLinks =
      (o.gather files).types.keys.flatMap fun key =>
        ((o.lastFields files key).filter fun field =>
          (field.childrenAt "name").isEmpty).filterMap ((o.gather files).fieldLink? .embeds key) ++
        (o.lastFields files key).flatMap fun field =>
          (field.childrenAt "name").filterMap fun _ =>
            (o.gather files).fieldLink? .uses key field := by
  unfold Symbols.typeLinks Table.keys
  rw [List.flatMap_map]
  refine List.flatMap_congr fun e he => ?_
  obtain ⟨key, t⟩ := e
  obtain ⟨_, hembeds, hfields⟩ := o.dependencies_of_mem_types files he
  have hpackage := (o.keyed_gather files).package_type he
  dsimp only
  rw [hembeds, hfields, hpackage, Symbols.embedLinks_eq, Symbols.useLinks_eq]

theorem mem_types_iff (o : Origin) (files : List SourceFile) (key : Key) :
    key ∈ (o.gather files).types.keys ↔ ∃ type, (key, type) ∈ o.typeExpressions files := by
  have hkeys : ((o.stream files).filterMap Declaration.asType?).map (·.1) =
      (o.typeExpressions files).map (·.1) := by
    have hfirst := congrArg (List.map (·.1)) (o.dependencies_stream files)
    rw [List.map_map, List.map_map] at hfirst
    exact hfirst
  rw [types_gather, Table.mem_keys_ofStream, hkeys]
  simp

/-- A link between types leaves a record and ends at a known type of the same package. -/
theorem typeLink_ends (o : Origin) (files : List SourceFile) {l : Link}
    (hl : l ∈ (o.gather files).typeLinks) :
    ∃ p n t name, (Key.type p n, t) ∈ (o.gather files).types.entries ∧ t.kind = .record ∧
      (o.gather files).Known p name ∧ l = (Key.type p n).typeLink l.kind name := by
  rw [typeLinks_gather] at hl
  obtain ⟨key, hkey, hl⟩ := List.mem_flatMap.mp hl
  obtain ⟨p, n, rfl⟩ := (o.keyed_gather files).type_of_mem hkey
  -- of either kind, the link comes from one of the fields
  have hfield : ∃ kind, ∃ field ∈ o.lastFields files (.type p n),
      (o.gather files).fieldLink? kind (.type p n) field = some l := by
    rcases List.mem_append.mp hl with hl | hl
    · obtain ⟨field, hfield, hlink⟩ := List.mem_filterMap.mp hl
      exact ⟨.embeds, field, (List.mem_filter.mp hfield).1, hlink⟩
    · obtain ⟨field, hfield, hl⟩ := List.mem_flatMap.mp hl
      obtain ⟨_, _, hlink⟩ := List.mem_filterMap.mp hl
      exact ⟨.uses, field, hfield, hlink⟩
  obtain ⟨kind, field, hfield, hlink⟩ := hfield
  obtain ⟨_, name, _, _, _, _, _, hknown, rfl⟩ := Symbols.fieldLink?_eq_some_iff.mp hlink
  obtain ⟨⟨k, t⟩, he, rfl⟩ := List.mem_map.mp hkey
  refine ⟨p, n, t, name, he, ?_, hknown, rfl⟩
  cases hkind : t.kind with
  | record => rfl
  | interface =>
    rw [(o.dependencies_of_mem_types files he).1 hkind] at hfield
    cases hfield

/-- Where no type has a dot in its name, the id of a type tells the type. -/
theorem type_id_inj {o : Origin} {files : List SourceFile}
    (hplain : ∀ p n, Key.type p n ∈ (o.gather files).types.keys → '.' ∉ n.toList)
    {p n q m : String} (hp : Key.type p n ∈ (o.gather files).types.keys)
    (hq : Key.type q m ∈ (o.gather files).types.keys)
    (hid : (Key.type p n).id = (Key.type q m).id) : p = q ∧ n = m :=
  last_dot_inj (hplain p n hp) (hplain q m hq) hid

theorem interface_id_ne_record_id (o : Origin) (files : List SourceFile)
    (hplain : ∀ p n, Key.type p n ∈ (o.gather files).types.keys → '.' ∉ n.toList)
    {p n : String} {t : TypeDecl} (he : (Key.type p n, t) ∈ (o.gather files).types.entries)
    (hrecord : t.kind = .record) {c : Component} (hc : c ∈ (o.gather files).graph.components)
    (hentity : c.entity = .interface) : c.id ≠ (Key.type p n).id := by
  have hkeyed := o.keyed_gather files
  intro hid
  rcases Symbols.mem_components.mp hc with ⟨e, _, rfl⟩ | ⟨e, he', rfl⟩ | ⟨e, _, rfl⟩ | ⟨e, _, rfl⟩
  · cases hentity
  · obtain ⟨k, t'⟩ := e
    have hk := Table.mem_keys_of_mem he'
    obtain ⟨q, m, rfl⟩ := hkeyed.type_of_mem hk
    obtain ⟨rfl, rfl⟩ := type_id_inj hplain hk (Table.mem_keys_of_mem he) hid
    -- one key has one entry, so the interface would be the record
    have hget := (Table.mem_entries_iff hkeyed.types.nodup _ _).mp he
    rw [(Table.mem_entries_iff hkeyed.types.nodup _ _).mp he'] at hget
    cases hget
    rw [hrecord] at hentity
    cases hentity
  · cases hentity
  · cases hentity

/-- The links between types, exactly and in order: types as the table lists them, and for each
one the field declarations of its last declaration, first those without a name, then a link for
each name of the others. A field gives a link when its type comes down to a type of the same
package that is known and has no name of the language itself; what qualifies the name counts
for named fields only. So such a link never leaves an interface, never ends in another package
and never ends at a name of the language. -/
theorem type_links_are_the_resolved_fields (o : Origin) (files : List SourceFile) :
    let s := o.gather files
    s.graph.links.filter (fun l => l.kind = .embeds ∨ l.kind = .uses) =
        s.types.keys.flatMap (fun key =>
          ((o.lastFields files key).filter fun field =>
            (field.childrenAt "name").isEmpty).filterMap (s.fieldLink? .embeds key) ++
          (o.lastFields files key).flatMap fun field =>
            (field.childrenAt "name").filterMap fun _ => s.fieldLink? .uses key field) ∧
      (∀ key, key ∈ s.types.keys ↔ ∃ type, (key, type) ∈ o.typeExpressions files) ∧
      (∀ kind key field l, s.fieldLink? kind key field = some l ↔
        ∃ type name qualifier, field.child? "type" = some type ∧
          type.Denotes key.packagePath name qualifier ∧
          (kind = .uses → qualifier = key.packagePath) ∧ name ≠ "" ∧
          s.Known key.packagePath name ∧ l = key.typeLink kind name) ∧
      (∀ l ∈ s.graph.links, l.kind = .embeds ∨ l.kind = .uses →
        ∃ p n t name, (Key.type p n, t) ∈ s.types.entries ∧ t.kind = .record ∧
          name ∉ TypeName.primitives ∧ Key.type p name ∈ s.types.keys ∧
          l = (Key.type p n).typeLink l.kind name) ∧
      ((∀ p n, Key.type p n ∈ s.types.keys → '.' ∉ n.toList) →
        ∀ l ∈ s.graph.links, l.kind = .embeds ∨ l.kind = .uses →
          (∀ c ∈ s.graph.components, c.entity = .interface → c.id ≠ l.source) ∧
          ∀ p n q m, Key.type p n ∈ s.types.keys → Key.type q m ∈ s.types.keys →
            (Key.type p n).id = l.source → (Key.type q m).id = l.target →
            p = q ∧ m ∉ TypeName.primitives) := by
  intro s
  have hmem : ∀ l ∈ s.graph.links, l.kind = .embeds ∨ l.kind = .uses → l ∈ s.typeLinks := by
    intro l hl hkind
    rw [← Symbols.typeLinks_graph]
    exact List.mem_filter.mpr ⟨hl, decide_eq_true hkind⟩
  refine ⟨?_, o.mem_types_iff files, ?_, ?_, ?_⟩
  · rw [Symbols.typeLinks_graph]
    exact o.typeLinks_gather files
  · intro kind key field l
    exact Symbols.fieldLink?_eq_some_iff
  · intro l hl hkind
    obtain ⟨p, n, t, name, he, hrecord, ⟨hprimitive, hknown⟩, hlink⟩ :=
      o.typeLink_ends files (hmem l hl hkind)
    exact ⟨p, n, t, name, he, hrecord, hprimitive, hknown, hlink⟩
  · intro hplain l hl hkind
    obtain ⟨p, n, t, name, he, hrecord, ⟨hprimitive, hknown⟩, hlink⟩ :=
      o.typeLink_ends files (hmem l hl hkind)
    have hsource : l.source = (Key.type p n).id := by rw [hlink]; rfl
    have htarget : l.target = (Key.type p name).id := by rw [hlink]; rfl
    refine ⟨?_, ?_⟩
    · intro c hc hentity hid
      exact o.interface_id_ne_record_id files hplain he hrecord hc hentity (hid.trans hsource)
    · intro p' n' q m hp' hq hid hid'
      obtain ⟨rfl, rfl⟩ :=
        type_id_inj hplain hp' (Table.mem_keys_of_mem he) (hid.trans hsource)
      obtain ⟨rfl, rfl⟩ := type_id_inj hplain hq hknown (hid'.trans htarget)
      exact ⟨rfl, hprimitive⟩

end Origin

namespace Node

/-- A field declaration with the given names. -/
def fieldOf (names : List String) (type : Node) : Node :=
  .mk { kind := "field_declaration" }
    (names.map (fun name =>
        .mk { kind := "field_identifier", field := some "name", text := some name } [])
      ++ [type])

/-- A plain type name in a field declaration. -/
def plainType (name : String) : Node :=
  .mk { kind := "type_identifier", field := some "type", text := some name } []

/-- A qualified type name in a field declaration. -/
def qualifiedType (qualifier name : String) : Node :=
  .mk { kind := "qualified_type", field := some "type" }
    [.mk { kind := "package_identifier", field := some "package", text := some qualifier } [],
     .mk { kind := "type_identifier", field := some "name", text := some name } []]

/-- A record type with the given field declarations. -/
def recordOf (name : String) (fields : List Node) : Node :=
  .mk { kind := "type_declaration" }
    [.mk { kind := "type_spec" }
      [.mk { kind := "type_identifier", field := some "name", text := some name } [],
       .mk { kind := "struct_type", field := some "type" }
        [.mk { kind := "field_declaration_list" } fields]]]

end Node

namespace Origin

/-- A record `S` that embeds `q.T` and has the fields `x` and `y` of a pointer to `T` and `z` of
`int`, next to records `T` and `int`. -/
def recordWithFields : List SourceFile :=
  [⟨"/r/x.go", .mk { kind := "source_file" }
    [.recordOf "T" [], .recordOf "int" [],
     .recordOf "S"
      [.fieldOf ["x", "y"] (.mk { kind := "pointer_type", field := some "type" } [.plainType "T"]),
       .fieldOf [] (.qualifiedType "q" "T"), .fieldOf ["z"] (.plainType "int")]]⟩]

/-- The embedded type comes first and is found by its name alone, `x` and `y` give a link each,
and `z` gives none although the package has a type `int`. -/
theorem a_record_embeds_by_name_and_uses_no_primitive :
    let s := (⟨"/", "/r", "m"⟩ : Origin).gather recordWithFields
    let link (kind : LinkKind) : Link := { source := "m.S", target := "m.T", kind }
    s.types.keys = [.type "m" "T", .type "m" "int", .type "m" "S"] ∧
      s.graph.links.filter (fun l => l.kind = .embeds ∨ l.kind = .uses) =
        [link .embeds, link .uses, link .uses] ∧
      ∀ q n, Key.type q n ∈ s.types.keys → (Key.type q n).id = "m.T" →
        "m" = q ∧ n ∉ TypeName.primitives := by
  intro s link
  have hkeys : s.types.keys = [.type "m" "T", .type "m" "int", .type "m" "S"] := by
    subst s; decide +kernel
  have hlinks : s.graph.links.filter (fun l => l.kind = .embeds ∨ l.kind = .uses) =
      [link .embeds, link .uses, link .uses] := by
    subst s link; decide +kernel
  refine ⟨hkeys, hlinks, ?_⟩
  have hplain : ∀ p n, Key.type p n ∈ s.types.keys → '.' ∉ n.toList := by
    intro p n hmem
    rw [hkeys] at hmem
    simp only [List.mem_cons, Key.type.injEq, List.not_mem_nil, or_false] at hmem
    rcases hmem with ⟨_, rfl⟩ | ⟨_, rfl⟩ | ⟨_, rfl⟩ <;> decide
  have hlink : link .uses ∈ s.graph.links := by
    refine (List.mem_filter (p := fun l => l.kind = .embeds ∨ l.kind = .uses)).mp ?_ |>.1
    rw [hlinks]
    simp
  have hlaw := type_links_are_the_resolved_fields ⟨"/", "/r", "m"⟩ recordWithFields
  intro q n hmem hid
  exact (hlaw.2.2.2.2 hplain _ hlink (Or.inr rfl)).2 "m" "S" q n (by rw [hkeys]; decide) hmem
    (by decide) hid

/-! ## Qualified fields -/

theorem useLinks_gather (o : Origin) (files : List SourceFile) :
    (o.gather files).graph.links.filter (·.kind = .uses) =
      (o.gather files).types.keys.flatMap fun key =>
        (o.lastFields files key).flatMap fun field =>
          (field.childrenAt "name").filterMap fun _ =>
            (o.gather files).fieldLink? .uses key field := by
  have hkind : ∀ {kind key field l}, (o.gather files).fieldLink? kind key field = some l →
      l.kind = kind := by
    intro kind key field l h
    obtain ⟨_, _, _, _, _, _, _, _, rfl⟩ := Symbols.fieldLink?_eq_some_iff.mp h
    rfl
  rw [Symbols.links_of_kind, typeLinks_gather, List.filter_flatMap]
  simp only [reduceCtorEq, if_false, List.nil_append]
  refine List.flatMap_congr fun key _ => ?_
  have hembeds : ∀ l ∈ ((o.lastFields files key).filter fun field =>
      (field.childrenAt "name").isEmpty).filterMap ((o.gather files).fieldLink? .embeds key),
      l.kind = .embeds := by
    intro l hl
    obtain ⟨field, _, hlink⟩ := List.mem_filterMap.mp hl
    exact hkind hlink
  have huses : ∀ l ∈ (o.lastFields files key).flatMap fun field =>
      (field.childrenAt "name").filterMap fun _ => (o.gather files).fieldLink? .uses key field,
      l.kind = .uses := by
    intro l hl
    obtain ⟨field, _, hl⟩ := List.mem_flatMap.mp hl
    obtain ⟨_, _, hlink⟩ := List.mem_filterMap.mp hl
    exact hkind hlink
  rw [List.filter_append, Symbols.filter_kind hembeds, Symbols.filter_kind huses]
  simp

/-- The package of a type is that of the module, or it has a slash. -/
theorem packagePath_of_mem_types (o : Origin) (files : List SourceFile) {key : Key}
    (h : key ∈ (o.gather files).types.keys) :
    key.packagePath = o.modulePath ∨ '/' ∈ key.packagePath.toList := by
  obtain ⟨file, _, hpackage⟩ :=
    package_of_declares (o.mem_keys_gather.mp (Symbols.types_subset_keys h))
  rw [hpackage, package_eq]
  split
  · exact Or.inl rfl
  · right
    simp

/-- A field of a qualified type has a link exactly when the word before the dot is the whole
path of the package that the field stands in, and that package has a type of the name behind
the dot. -/
theorem fieldLink?_of_qualified {s : Symbols} {key : Key} {field type leaf : Node}
    (htype : field.child? "type" = some type) (hleaf : type.UnwrapsTo leaf)
    (hkind : leaf.kind = "qualified_type") (l : Link) :
    s.fieldLink? .uses key field = some l ↔
      Node.textOf (leaf.child? "package") = key.packagePath ∧
        Node.textOf (leaf.child? "name") ≠ "" ∧
        s.Known key.packagePath (Node.textOf (leaf.child? "name")) ∧
        l = key.typeLink .uses (Node.textOf (leaf.child? "name")) := by
  have hmeans : type.Denotes key.packagePath _ _ := .qualified hleaf hkind
  rw [Symbols.fieldLink?_eq_some_iff]
  constructor
  · rintro ⟨type', name, qualifier, htype', hdenotes, hqualifier, hname, hknown, rfl⟩
    rw [htype] at htype'
    cases htype'
    -- a type expression means one thing only
    have hsame := (Node.typeName_of_denotes hmeans).symm.trans (Node.typeName_of_denotes hdenotes)
    cases hsame
    exact ⟨hqualifier rfl, hname, hknown, rfl⟩
  · rintro ⟨hqualifier, hname, hknown, rfl⟩
    exact ⟨type, _, _, htype, hmeans, fun _ => hqualifier, hname, hknown, rfl⟩

/-- Where `uses` links come from, exactly. A link leads from a type to the type that a named field
of its last declaration comes down to: as a plain name, or as a name qualified with the whole
path of the package that the field stands in. A qualified field has a link only in that case. No
qualifier has a slash in source text, so it is then the path of the module, and the field
stands in the base directory. -/
theorem uses_are_plain_or_qualified_with_the_own_package (o : Origin) (files : List SourceFile) :
    let s := o.gather files
    s.graph.links.filter (·.kind = .uses) =
        s.types.keys.flatMap (fun key =>
          (o.lastFields files key).flatMap fun field =>
            (field.childrenAt "name").filterMap fun _ => s.fieldLink? .uses key field) ∧
      (∀ l ∈ s.graph.links, l.kind = .uses →
        ∃ p n name, Key.type p n ∈ s.types.keys ∧ Key.type p name ∈ s.types.keys ∧
          l = (Key.type p n).typeLink .uses name ∧
          ∃ field ∈ o.lastFields files (.type p n), field.childrenAt "name" ≠ [] ∧
          ∃ type leaf, field.child? "type" = some type ∧ type.UnwrapsTo leaf ∧
            (leaf.kind = "type_identifier" ∧ leaf.text = name ∨
              leaf.kind = "qualified_type" ∧ Node.textOf (leaf.child? "name") = name ∧
                Node.textOf (leaf.child? "package") = p)) ∧
      ∀ key ∈ s.types.keys, ∀ field type leaf, field.child? "type" = some type →
        type.UnwrapsTo leaf → leaf.kind = "qualified_type" →
        (∀ l, s.fieldLink? .uses key field = some l ↔
          Node.textOf (leaf.child? "package") = key.packagePath ∧
            Node.textOf (leaf.child? "name") ≠ "" ∧
            s.Known key.packagePath (Node.textOf (leaf.child? "name")) ∧
            l = key.typeLink .uses (Node.textOf (leaf.child? "name"))) ∧
        ('/' ∉ (Node.textOf (leaf.child? "package")).toList →
          s.fieldLink? .uses key field ≠ none →
          Node.textOf (leaf.child? "package") = o.modulePath ∧ key.packagePath = o.modulePath) := by
  intro s
  refine ⟨o.useLinks_gather files, ?_, ?_⟩
  · intro l hl hkind
    have huse : l ∈ s.graph.links.filter (·.kind = .uses) :=
      List.mem_filter.mpr ⟨hl, decide_eq_true hkind⟩
    rw [o.useLinks_gather files] at huse
    obtain ⟨key, hkey, huse⟩ := List.mem_flatMap.mp huse
    obtain ⟨field, hfield, huse⟩ := List.mem_flatMap.mp huse
    obtain ⟨word, hword, hlink⟩ := List.mem_filterMap.mp huse
    obtain ⟨p, n, rfl⟩ := (o.keyed_gather files).type_of_mem hkey
    obtain ⟨type, name, qualifier, htype, hdenotes, hqualifier, _, hknown, rfl⟩ :=
      Symbols.fieldLink?_eq_some_iff.mp hlink
    refine ⟨p, n, name, hkey, hknown.2, rfl, field, hfield, List.ne_nil_of_mem hword, type, ?_⟩
    rcases hdenotes with ⟨hleaf, hplain⟩ | ⟨hleaf, hqualified⟩
    · exact ⟨_, htype, hleaf, Or.inl ⟨hplain, rfl⟩⟩
    · exact ⟨_, htype, hleaf, Or.inr ⟨hqualified, rfl, hqualifier rfl⟩⟩
  · intro key hkey field type leaf htype hleaf hkind
    have hexact : ∀ l, s.fieldLink? .uses key field = some l ↔ _ :=
      fieldLink?_of_qualified htype hleaf hkind
    refine ⟨hexact, ?_⟩
    intro hslash hsome
    obtain ⟨l, hl⟩ := Option.ne_none_iff_exists'.mp hsome
    have hqualifier := ((hexact l).mp hl).1
    rcases o.packagePath_of_mem_types files hkey with hmodule | hin
    · exact ⟨hqualifier.trans hmodule, hmodule⟩
    · exact absurd (hqualifier ▸ hin) hslash

/-- A record `S` with a field of the type `m.T`, where `m` is a package of someone else, next to a
record `T`. -/
def fieldOfForeignType : List SourceFile :=
  [⟨"/r/x.go", .mk { kind := "source_file" }
    [.recordOf "T" [], .recordOf "S" [.fieldOf ["x"] (.qualifiedType "m" "T")]]⟩]

/-- In a module with the path `m` the field is taken for one of the record `T` of the package
itself. In a module with any other path without a slash it is not. -/
theorem a_foreign_field_is_taken_for_one_of_the_package :
    let use (m : String) : Link := { source := m ++ ".S", target := m ++ ".T", kind := .uses }
    let s := (⟨"/", "/r", "m"⟩ : Origin).gather fieldOfForeignType
    use "m" ∈ s.graph.links ∧
      (∃ field ∈ (⟨"/", "/r", "m"⟩ : Origin).lastFields fieldOfForeignType (.type "m" "S"),
        field.child? "type" = some (.qualifiedType "m" "T") ∧
          s.fieldLink? .uses (.type "m" "S") field = some (use "m")) ∧
      ((⟨"/", "/r", "n"⟩ : Origin).gather fieldOfForeignType).graph.links.filter
        (·.kind = .uses) = [] := by
  intro use s
  have huse : use "m" ∈ s.graph.links := by subst s use; decide +kernel
  have hother : ((⟨"/", "/r", "n"⟩ : Origin).gather fieldOfForeignType).graph.links.filter
      (·.kind = .uses) = [] := by decide +kernel
  have hkeys : s.types.keys = [.type "m" "T", .type "m" "S"] := by subst s; decide +kernel
  have hlaw := uses_are_plain_or_qualified_with_the_own_package ⟨"/", "/r", "m"⟩ fieldOfForeignType
  have hin : Key.type "m" "S" ∈ s.types.keys := by rw [hkeys]; decide
  refine ⟨huse, ⟨.fieldOf ["x"] (.qualifiedType "m" "T"), ?_, rfl, ?_⟩, hother⟩
  · have hfields : (⟨"/", "/r", "m"⟩ : Origin).lastFields fieldOfForeignType (.type "m" "S") =
        [.fieldOf ["x"] (.qualifiedType "m" "T")] := by rfl
    rw [hfields]
    exact List.mem_singleton_self _
  · refine ((hlaw.2.2 _ hin _ _ (.qualifiedType "m" "T") rfl .refl rfl).1 _).mpr ?_
    refine ⟨rfl, by decide, ⟨by decide, ?_⟩, rfl⟩
    change Key.type "m" "T" ∈ s.types.keys
    rw [hkeys]
    decide

end Origin

end SourceAtlas
