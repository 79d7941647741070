-- The path of the module is only a label. Two runs over the same files under two module paths
-- fill their tables in step: the same keys are met and missed, and an entry of the one differs
-- from that of the other in the package that it names. So the graphs differ in the texts of
-- their ids, and there in the label alone.
import Mathlib.Data.List.Forall2
import SourceAtlas.Proofs.LinkEnds
import SourceAtlas.Proofs.PackagePaths
import SourceAtlas.Proofs.TypeExpressions

set_option linter.unusedSectionVars false

namespace SourceAtlas

/-! ## Tables that match -/

namespace Table

variable {κ α β : Type} [DecidableEq κ] {P : κ → Prop} {f : κ → κ} {R : α → α → Prop}
  {t t' : Table κ α}

/-- Entry by entry, the second table has the key of the first under another name, and a value
that goes with it. The keys are all of one sort. -/
def Matches (P : κ → Prop) (f : κ → κ) (R : α → α → Prop) (t t' : Table κ α) : Prop :=
  List.Forall₂ (fun e e' => P e.1 ∧ e'.1 = f e.1 ∧ R e.2 e'.2) t.entries t'.entries

theorem Matches.keys (h : t.Matches P f R t') : t'.keys = t.keys.map f ∧ ∀ k ∈ t.keys, P k := by
  obtain ⟨es⟩ := t
  obtain ⟨es'⟩ := t'
  unfold Matches at h
  unfold Table.keys
  dsimp only at h ⊢
  induction h with
  | nil => exact ⟨rfl, by simp⟩
  | cons he _ ih =>
    rw [List.map_cons, List.map_cons, List.map_cons, ih.1, he.2.1]
    exact ⟨rfl, List.forall_mem_cons.mpr ⟨he.1, ih.2⟩⟩

/-- What matching tables give, entry by entry. -/
theorem Matches.flatMap_eq (h : t.Matches P f R t') {g g' : κ × α → List β}
    (hg : ∀ k a a', (k, a) ∈ t.entries → P k → R a a' → g' (f k, a') = g (k, a)) :
    t'.entries.flatMap g' = t.entries.flatMap g := by
  obtain ⟨es⟩ := t
  obtain ⟨es'⟩ := t'
  unfold Matches at h
  dsimp only at h hg ⊢
  induction h with
  | nil => rfl
  | @cons e e' es es' he hes ih =>
    obtain ⟨k, a⟩ := e
    obtain ⟨k', a'⟩ := e'
    obtain ⟨hk, rfl, ha⟩ := he
    rw [List.flatMap_cons, List.flatMap_cons, hg k a a' List.mem_cons_self hk ha]
    rw [ih fun l b b' hb => hg l b b' (List.mem_cons_of_mem _ hb)]

theorem Matches.map_eq (h : t.Matches P f R t') {g g' : κ × α → β}
    (hg : ∀ k a a', (k, a) ∈ t.entries → P k → R a a' → g' (f k, a') = g (k, a)) :
    t'.entries.map g' = t.entries.map g := by
  rw [List.map_eq_flatMap, List.map_eq_flatMap]
  exact h.flatMap_eq fun k a a' he hk ha => by rw [hg k a a' he hk ha]

theorem Matches.filterMap_eq (h : t.Matches P f R t') {g g' : κ × α → Option β}
    (hg : ∀ k a a', (k, a) ∈ t.entries → P k → R a a' → g' (f k, a') = g (k, a)) :
    t'.entries.filterMap g' = t.entries.filterMap g := by
  rw [List.filterMap_eq_flatMap_toList, List.filterMap_eq_flatMap_toList]
  exact h.flatMap_eq fun k a a' he hk ha => by rw [hg k a a' he hk ha]

section

variable (hf : ∀ {k l}, P k → P l → f k = f l → k = l) {k : κ}

include hf

/-- A key is found under its new name exactly when it was there under the old one. -/
theorem Matches.contains (h : t.Matches P f R t') (hk : P k) :
    t'.contains (f k) = t.contains k := by
  rw [Bool.eq_iff_iff, contains_iff, contains_iff, h.keys.1, List.mem_map]
  constructor
  · rintro ⟨l, hl, hsame⟩
    exact hf (h.keys.2 l hl) hk hsame ▸ hl
  · intro hmem
    exact ⟨k, hmem, rfl⟩

theorem Matches.insert (h : t.Matches P f R t') (hk : P k) {a a' : α} (ha : R a a') :
    (t.insert k a).Matches P f R (t'.insert (f k) a') := by
  obtain ⟨es⟩ := t
  obtain ⟨es'⟩ := t'
  unfold Matches at h ⊢
  unfold Table.insert
  dsimp only at h ⊢
  induction h with
  | nil => exact .cons ⟨hk, rfl, ha⟩ .nil
  | @cons e e' es es' he hes ih =>
    by_cases hsame : e.1 = k
    · rw [insertEntry, insertEntry, if_pos hsame, if_pos (by rw [he.2.1, hsame])]
      exact .cons ⟨hk, rfl, ha⟩ hes
    · have hother : e'.1 ≠ f k := by
        rw [he.2.1]
        exact fun heq => hsame (hf he.1 hk heq)
      rw [insertEntry, insertEntry, if_neg hsame, if_neg hother]
      exact .cons he ih

theorem Matches.modify (h : t.Matches P f R t') (hk : P k) {g g' : α → α}
    (hg : ∀ a a', R a a' → R (g a) (g' a')) :
    (t.modify k g).Matches P f R (t'.modify (f k) g') := by
  unfold Matches Table.modify
  rw [List.forall₂_map_left_iff, List.forall₂_map_right_iff]
  refine List.Forall₂.imp ?_ h
  rintro e e' ⟨he, hname, hvalue⟩
  by_cases hsame : e.1 = k
  · rw [if_pos hsame, if_pos (by rw [hname, hsame])]
    exact ⟨he, hname, hg _ _ hvalue⟩
  · have hother : e'.1 ≠ f k := by
      rw [hname]
      exact fun heq => hsame (hf he hk heq)
    rw [if_neg hsame, if_neg hother]
    exact ⟨he, hname, hvalue⟩

end

end Table

/-! ## Another label -/

/-- The text with another label in place of the first one, which it begins with. -/
def relabel (m m' text : String) : String := m' ++ String.ofList (text.toList.drop m.length)

theorem relabel_append (m m' rest : String) : relabel m m' (m ++ rest) = m' ++ rest := by
  have hdrop : (m ++ rest).toList.drop m.length = rest.toList := by
    rw [String.toList_append, ← String.length_toList, List.drop_left]
  unfold relabel
  rw [hdrop, String.ofList_toList]

namespace Key

/-- The same symbol in another package. -/
def inPackage (p : String) : Key → Key
  | package _ => package p
  | type _ n => type p n
  | function _ n => function p n
  | method _ r n => method p r n

/-- The same symbol under another label. -/
def relabel (m m' : String) (k : Key) : Key := k.inPackage (SourceAtlas.relabel m m' k.packagePath)

/-- The package of the symbol begins with the label. -/
def Labelled (m : String) (k : Key) : Prop := ∃ rest, k.packagePath = m ++ rest

variable {m m' : String} {k l : Key}

theorem id_relabel (h : k.Labelled m) : (k.relabel m m').id = SourceAtlas.relabel m m' k.id := by
  obtain ⟨rest, h⟩ := h
  cases k with
  | package p =>
    rfl
  | type p n =>
    change p = m ++ rest at h
    simp only [relabel, packagePath, inPackage, id, h, relabel_append, String.append_assoc]
  | function p n =>
    change p = m ++ rest at h
    simp only [relabel, packagePath, inPackage, id, h, relabel_append, String.append_assoc]
  | method p r n =>
    change p = m ++ rest at h
    simp only [relabel, packagePath, inPackage, id, h, relabel_append, String.append_assoc]

/-- Different symbols stay different. -/
theorem relabel_inj (hk : k.Labelled m) (hl : l.Labelled m)
    (h : k.relabel m m' = l.relabel m m') : k = l := by
  obtain ⟨rest, hk⟩ := hk
  obtain ⟨rest', hl⟩ := hl
  have hpackage : ∀ k : Key,
      (k.relabel m m').packagePath = SourceAtlas.relabel m m' k.packagePath := by
    intro k
    cases k <;> rfl
  have hrest := congrArg packagePath h
  rw [hpackage, hpackage, hk, hl, relabel_append, relabel_append] at hrest
  have hsame : k.packagePath = l.packagePath := by
    rw [hk, hl, show rest = rest' by simpa using hrest]
  cases k <;> cases l <;> simp_all [relabel, inPackage, packagePath]

end Key

/-! ## Declarations under two labels -/

/-- The two declarations are one under two labels. Which packages the fields of a record are
in is left open, since a package may be written out in the source. -/
inductive Declaration.Relabels (m m' : String) : Declaration → Declaration → Prop
  | type {t t' : TypeDecl} :
    t' = { t with package := relabel m m' t.package, fields := t'.fields } →
    Relabels m m' (.type t) (.type t')
  | plainType (p p' n : String) : Relabels m m' (.plainType p n) (.plainType p' n)
  | function (f : FunctionDecl) :
    Relabels m m' (.function f) (.function { f with package := relabel m m' f.package })
  | method (d : MethodDecl) :
    Relabels m m' (.method d) (.method { d with package := relabel m m' d.package })

namespace Node

theorem embeds_eq (p p' : String) (record : Node) : record.embeds p' = record.embeds p := by
  have hname : ∀ field : Node, (field.fieldType p').name = (field.fieldType p).name := by
    intro field
    unfold fieldType
    cases field.child? "type" with
    | none => rfl
    | some type => exact type.name_typeName p p'
  unfold embeds
  simp only [hname]

variable {m m' p p' : String}

theorem typeSpec_relabels (hp : p' = relabel m m' p) (file : String) (spec : Node) :
    (typeSpec p file spec).Relabels m m' (typeSpec p' file spec) := by
  unfold typeSpec
  dsimp only
  split
  · exact .plainType _ _ _
  · split
    · refine .type ?_
      rw [embeds_eq p p', hp]
    · split
      · refine .type ?_
        rw [hp]
      · exact .plainType _ _ _

theorem declarations_relabels (hp : p' = relabel m m' p) (file : String) (decl : Node) :
    List.Forall₂ (Declaration.Relabels m m') (declarations p file decl)
      (declarations p' file decl) := by
  unfold declarations
  split
  · rw [List.forall₂_map_left_iff, List.forall₂_map_right_iff, List.forall₂_same]
    exact fun spec _ => typeSpec_relabels hp file spec
  · subst hp
    split
    · exact .cons (.function _) .nil
    · split
      · exact .cons (.method _) .nil
      · exact .nil

theorem allDeclarations_relabels (hp : p' = relabel m m' p) (file : String) (root : Node) :
    List.Forall₂ (Declaration.Relabels m m') (root.allDeclarations p file)
      (root.allDeclarations p' file) := by
  unfold allDeclarations
  induction root.parts with
  | nil => exact .nil
  | cons decl decls ih =>
    rw [List.flatMap_cons, List.flatMap_cons]
    exact List.rel_append (declarations_relabels hp file decl) ih

end Node

/-! ## Tables in step -/

namespace Symbols

/-- The tables hold the same symbols under two labels, in the same order. -/
structure InStep (m m' : String) (s s' : Symbols) : Prop where
  packages : s.packages.Matches (Key.Labelled m) (Key.relabel m m')
    (fun p p' => p' = { p with path := relabel m m' p.path }) s'.packages
  types : s.types.Matches (Key.Labelled m) (Key.relabel m m')
    (fun t t' => t' = { t with package := relabel m m' t.package, fields := t'.fields }) s'.types
  functions : s.functions.Matches (Key.Labelled m) (Key.relabel m m')
    (fun f f' => f' = { f with package := relabel m m' f.package }) s'.functions
  methods : s.methods.Matches (Key.Labelled m) (Key.relabel m m')
    (fun d d' => d' = { d with package := relabel m m' d.package }) s'.methods

variable {m m' : String} {s s' : Symbols}

theorem InStep.declare (h : InStep m m' s s') {d d' : Declaration} (hd : d.Relabels m m' d')
    (hlabel : ∃ rest, d.package = m ++ rest) : InStep m m' (s.declare d) (s'.declare d') := by
  cases hd with
  | @type t t' ht =>
    have hkey : t'.key = t.key.relabel m m' := by rw [ht]; rfl
    have htypes := h.types.insert Key.relabel_inj (k := t.key) hlabel ht
    rw [← hkey] at htypes
    exact { h with types := htypes }
  | plainType p p' n => exact h
  | function f =>
    exact { h with functions := h.functions.insert Key.relabel_inj (k := f.key) hlabel rfl }
  | method d =>
    exact { h with methods := h.methods.insert Key.relabel_inj (k := d.key) hlabel rfl }

theorem InStep.declareAll (h : InStep m m' s s') {ds ds' : List Declaration}
    (hds : List.Forall₂ (Declaration.Relabels m m') ds ds')
    (hlabel : ∀ d ∈ ds, ∃ rest, d.package = m ++ rest) :
    InStep m m' (ds.foldl Symbols.declare s) (ds'.foldl Symbols.declare s') := by
  induction hds generalizing s s' with
  | nil => exact h
  | cons hd _ ih =>
    obtain ⟨hfirst, hrest⟩ := List.forall_mem_cons.mp hlabel
    exact ih (h.declare hd hfirst) hrest

theorem InStep.enterPackage (h : InStep m m' s s') {p : String} (hlabel : ∃ rest, p = m ++ rest)
    (file : SourceFile) :
    InStep m m' (s.enterPackage p file) (s'.enterPackage (relabel m m' p) file) := by
  have hlabel : (Key.package p).Labelled m := hlabel
  have hknown : s'.packages.contains (.package (relabel m m' p)) =
      s.packages.contains (.package p) := h.packages.contains Key.relabel_inj hlabel
  have hentered : InStep m m'
      (s.ensurePackage p file.tree.packageName (Path.directory file.path))
      (s'.ensurePackage (relabel m m' p) file.tree.packageName (Path.directory file.path)) := by
    unfold ensurePackage
    dsimp only
    rw [hknown]
    split
    · exact h
    · exact { h with packages := h.packages.insert Key.relabel_inj hlabel rfl }
  refine { hentered with packages := hentered.packages.modify Key.relabel_inj hlabel ?_ }
  rintro q q' rfl
  rfl

end Symbols

namespace Origin

variable (here base m m' : String)

/-- The package of a directory under one label goes to that of the same directory under the
other. -/
theorem package_relabel (file : SourceFile) :
    (∃ rest, package ⟨here, base, m⟩ file = m ++ rest) ∧
      package ⟨here, base, m'⟩ file = relabel m m' (package ⟨here, base, m⟩ file) := by
  have hsame : directory ⟨here, base, m'⟩ file = directory ⟨here, base, m⟩ file := rfl
  rw [package_eq, package_eq, hsame]
  split
  · have hroot := relabel_append m m' ""
    simp only [String.append_empty] at hroot
    exact ⟨⟨"", by simp⟩, hroot.symm⟩
  · rw [String.append_assoc, String.append_assoc, relabel_append]
    exact ⟨⟨_, rfl⟩, rfl⟩

/-- Two runs over the same files go in step. -/
theorem inStep_gather (files : List SourceFile) :
    Symbols.InStep m m' (gather ⟨here, base, m⟩ files) (gather ⟨here, base, m'⟩ files) := by
  induction files using List.reverseRecOn with
  | nil => exact ⟨.nil, .nil, .nil, .nil⟩
  | append_singleton files file ih =>
    obtain ⟨hlabel, hpackage⟩ := package_relabel here base m m' file
    have hentered := ih.enterPackage hlabel file
    rw [← hpackage] at hentered
    rw [gather_enter, gather_enter]
    refine hentered.declareAll (Node.allDeclarations_relabels hpackage file.path file.tree) ?_
    intro d hd
    rw [package_of_mem_declarations hd]
    exact hlabel

end Origin

/-! ## The passes -/

/-- The component under another label. -/
def Component.relabel (m m' : String) (c : Component) : Component :=
  { c with id := SourceAtlas.relabel m m' c.id }

/-- The link with both of its ends under another label. -/
def Link.relabel (m m' : String) (l : Link) : Link :=
  { l with
    source := SourceAtlas.relabel m m' l.source
    target := SourceAtlas.relabel m m' l.target }

namespace Symbols

variable {m m' : String} {s s' : Symbols}

theorem InStep.keys (h : InStep m m' s s') : s'.keys = s.keys.map (Key.relabel m m') := by
  unfold Symbols.keys
  rw [h.packages.keys.1, h.types.keys.1, h.functions.keys.1, h.methods.keys.1]
  simp

theorem InStep.components (h : InStep m m' s s') :
    s'.components = s.components.map (Component.relabel m m') := by
  have hcomponent : ∀ (k : Key) (title : String) (entity : Entity), k.Labelled m →
      (⟨(k.relabel m m').id, title, entity⟩ : Component) =
        Component.relabel m m' ⟨k.id, title, entity⟩ :=
    fun k title entity hk => congrArg (Component.mk · title entity) (Key.id_relabel hk)
  unfold Symbols.components
  rw [List.map_append, List.map_append, List.map_append, List.map_map, List.map_map, List.map_map,
    List.map_map]
  congr 1
  · congr 1
    · congr 1
      · apply h.packages.map_eq
        rintro k p p' _ hk rfl
        exact hcomponent k p.name .package hk
      · apply h.types.map_eq
        intro k t t' _ hk ht
        rw [ht]
        exact hcomponent k t.name t.kind.entity hk
    · apply h.functions.map_eq
      rintro k f f' _ hk rfl
      exact hcomponent k f.name .function hk
  · apply h.methods.map_eq
    rintro k d d' _ hk rfl
    exact hcomponent k d.name .method hk

variable {p : String}

theorem InStep.hasType (h : InStep m m' s s') (hp : ∃ rest, p = m ++ rest) (name : String) :
    s'.hasType (relabel m m' p) name = s.hasType p name :=
  h.types.contains Key.relabel_inj (k := .type p name) hp

theorem InStep.containsLinks (h : InStep m m' s s') (hkeyed : s.Keyed) :
    s'.containsLinks = s.containsLinks.map (Link.relabel m m') := by
  unfold Symbols.containsLinks
  dsimp only
  rw [List.map_append, List.map_append, List.map_map, List.map_map, List.map_filterMap]
  congr 1
  · congr 1
    · apply h.types.map_eq
      intro k t t' _ hk ht
      rw [Key.id_relabel hk, ht]
      rfl
    · apply h.functions.map_eq
      rintro k f f' _ hk rfl
      rw [Key.id_relabel hk]
      rfl
  · apply h.methods.filterMap_eq
    rintro k d d' he hk rfl
    have hlabel : ∃ rest, d.package = m ++ rest := by rwa [hkeyed.package_method he]
    have howner : ((Key.type d.package d.receiver).relabel m m').id =
        SourceAtlas.relabel m m' (Key.type d.package d.receiver).id := Key.id_relabel hlabel
    dsimp only
    rw [h.hasType hlabel, Key.id_relabel hk]
    split
    · exact congrArg some (congrArg (Link.mk · _ _ _) howner)
    · rfl

theorem InStep.resolveCall (h : InStep m m' s s') (hp : ∃ rest, p = m ++ rest) (call : CallSite) :
    s'.resolveCall (relabel m m' p) call = (s.resolveCall p call).map (Key.relabel m m') := by
  have hsame : s'.functions.contains (.function (relabel m m' p) call.target) =
      s.functions.contains (.function p call.target) :=
    h.functions.contains Key.relabel_inj (k := .function p call.target) hp
  unfold Symbols.resolveCall
  dsimp only
  rw [hsame]
  split
  · rfl
  · split <;> rfl

theorem InStep.declaredType? (h : InStep m m' s s') (hp : ∃ rest, p = m ++ rest) (name : String) :
    s'.declaredType? (relabel m m' p) name = (s.declaredType? p name).map (Key.relabel m m') := by
  unfold Symbols.declaredType?
  rw [h.hasType hp]
  split <;> rfl

theorem InStep.callLinks (h : InStep m m' s s') (hkeyed : s.Keyed) :
    s'.callLinks = s.callLinks.map (Link.relabel m m') := by
  have hcaller : ∀ (k : Key) (f : FunctionDecl), k.Labelled m → f.package = k.packagePath →
      (f.calls.filterMap fun call =>
        (s'.resolveCall (relabel m m' f.package) call).map fun target =>
          ({ source := (k.relabel m m').id, target := target.id, kind := .calls,
             method := some call.target } : Link)) =
      (f.calls.filterMap fun call =>
        (s.resolveCall f.package call).map fun target =>
          ({ source := k.id, target := target.id, kind := .calls,
             method := some call.target } : Link)).map (Link.relabel m m') := by
    intro k f hk hpackage
    rw [List.map_filterMap]
    refine List.filterMap_congr fun call _ => ?_
    rw [h.resolveCall (hpackage ▸ hk)]
    cases htarget : s.resolveCall f.package call with
    | none => rfl
    | some target =>
      obtain ⟨rfl, _⟩ := resolveCall_eq_some htarget
      have hlabel : (Key.function f.package call.target).Labelled m := hpackage ▸ hk
      simp only [Option.map_some, Key.id_relabel hk, Key.id_relabel hlabel, Link.relabel]
  unfold Symbols.callLinks callers
  rw [List.flatMap_append, List.flatMap_append, List.map_append, List.map_flatMap, List.flatMap_map,
    List.flatMap_map, List.map_flatMap]
  congr 1
  · apply h.functions.flatMap_eq
    rintro k f f' he hk rfl
    exact hcaller k f hk (hkeyed.package_function he)
  · apply h.methods.flatMap_eq
    rintro k d d' he hk rfl
    exact hcaller k d.toFunctionDecl hk (hkeyed.package_method he)

/-- The links of kind `embeds` are those that the types give for what they embed. -/
theorem embedLinks_graph (s : Symbols) :
    s.graph.links.filter (·.kind = .embeds) =
      s.types.entries.flatMap fun (key, t) =>
        t.embeds.filterMap fun name =>
          (s.declaredType? t.package name).map fun target =>
            ({ source := key.id, target := target.id, kind := .embeds } : Link) := by
  rw [links_of_kind]
  unfold typeLinks
  simp only [reduceCtorEq, if_false, List.nil_append, List.filter_flatMap, List.filter_append]
  refine List.flatMap_congr fun e _ => ?_
  have hembeds : ∀ l ∈ e.2.embeds.filterMap fun name =>
      (s.declaredType? e.2.package name).map fun target =>
        ({ source := e.1.id, target := target.id, kind := .embeds } : Link),
      l.kind = .embeds := by
    intro l hl
    obtain ⟨name, _, hname⟩ := List.mem_filterMap.mp hl
    obtain ⟨target, _, rfl⟩ := Option.map_eq_some_iff.mp hname
    rfl
  rw [filter_kind hembeds, if_pos rfl, List.append_right_eq_self]
  refine List.filter_eq_nil_iff.mpr fun l hl => ?_
  obtain ⟨field, _, hfield⟩ := List.mem_filterMap.mp hl
  split at hfield
  · obtain ⟨target, _, rfl⟩ := Option.map_eq_some_iff.mp hfield
    simp
  · cases hfield

theorem InStep.embedLinks (h : InStep m m' s s') (hkeyed : s.Keyed) :
    s'.graph.links.filter (·.kind = .embeds) =
      (s.graph.links.filter (·.kind = .embeds)).map (Link.relabel m m') := by
  rw [embedLinks_graph, embedLinks_graph, List.map_flatMap]
  apply h.types.flatMap_eq
  intro k t t' he hk ht
  have hpackage := hkeyed.package_type he
  rw [ht]
  dsimp only
  rw [List.map_filterMap]
  refine List.filterMap_congr fun name _ => ?_
  rw [h.declaredType? (hpackage ▸ hk)]
  cases htarget : s.declaredType? t.package name with
  | none => rfl
  | some target =>
    obtain ⟨rfl, _⟩ := declaredType?_eq_some htarget
    have hlabel : (Key.type t.package name).Labelled m := hpackage ▸ hk
    simp only [Option.map_some, Key.id_relabel hk, Key.id_relabel hlabel, Link.relabel]

end Symbols

/-! ## The law -/

namespace Origin

/-- Under another path for the module, a graph has the same components, and the same links of
containment, calls and embedding, in the same order and with the same titles, entities and
called names. The ids alone differ, all of them in the same way: each is the text of a symbol
in the package of a directory, and it becomes the text of that symbol in the package that the
same directory has under the other path. -/
theorem the_module_path_is_only_a_label (here base m m' : String) (files : List SourceFile) :
    let o : Origin := ⟨here, base, m⟩
    let o' : Origin := ⟨here, base, m'⟩
    let g := (o.gather files).graph
    let g' := (o'.gather files).graph
    let ids := g.components.map (·.id)
    g'.components = g.components.map (Component.relabel m m') ∧
      (∀ kind ∈ [LinkKind.contains, .calls, .embeds],
        g'.links.filter (·.kind = kind) =
          (g.links.filter (·.kind = kind)).map (Link.relabel m m') ∧
        ∀ l ∈ g.links, l.kind = kind → l.source ∈ ids ∧ l.target ∈ ids) ∧
      ∀ id ∈ ids, ∃ file ∈ files, ∃ k ∈ (o.gather files).keys, k.id = id ∧
        k.packagePath = o.start.packagePath (o.directory file) ∧
        let k' := k.inPackage (o'.start.packagePath (o.directory file))
        k' ∈ (o'.gather files).keys ∧ k'.id = relabel m m' id := by
  intro o o' g g' ids
  have hkeyed := o.keyed_gather files
  have hstep : Symbols.InStep m m' (o.gather files) (o'.gather files) :=
    inStep_gather here base m m' files
  refine ⟨?_, ?_, ?_⟩
  · rw [Symbols.components_graph, Symbols.components_graph]
    exact hstep.components
  · intro kind hkind
    refine ⟨?_, ?_⟩
    · simp only [List.mem_cons, List.not_mem_nil, or_false] at hkind
      rcases hkind with rfl | rfl | rfl
      · rw [Symbols.containsLinks_graph, Symbols.containsLinks_graph]
        exact hstep.containsLinks hkeyed
      · rw [Symbols.callLinks_graph, Symbols.callLinks_graph]
        exact hstep.callLinks hkeyed
      · exact hstep.embedLinks hkeyed
    · rintro l hl rfl
      rcases Symbols.joined_or_import hkeyed (o.housed_gather files) hl with
        ⟨k, hk, k', hk', hsource, htarget, _⟩ | ⟨himport, _⟩
      · exact ⟨hsource ▸ Symbols.mem_ids hk, htarget ▸ Symbols.mem_ids hk'⟩
      · rw [himport] at hkind
        exact absurd hkind (by decide)
  · intro id hid
    have hid : id ∈ (o.gather files).keys.map Key.id := by rwa [← Symbols.ids_graph]
    obtain ⟨k, hk, rfl⟩ := List.mem_map.mp hid
    obtain ⟨file, hfile, hpackage⟩ := package_of_declares (o.mem_keys_gather.mp hk)
    obtain ⟨hlabel, hrelabel⟩ := package_relabel here base m m' file
    have hmoved : k.inPackage (o'.package file) = k.relabel m m' := by
      unfold Key.relabel
      rw [hpackage, hrelabel]
    refine ⟨file, hfile, k, hk, rfl, hpackage, ?_⟩
    change k.inPackage (o'.package file) ∈ _ ∧ (k.inPackage (o'.package file)).id = _
    rw [hmoved, hstep.keys]
    refine ⟨List.mem_map_of_mem hk, Key.id_relabel ?_⟩
    unfold Key.Labelled
    rw [hpackage]
    exact hlabel

end Origin

end SourceAtlas
