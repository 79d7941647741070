-- What contains what. A package contains its types and functions, and a type that is known
-- contains its methods, wherever they were declared. So containment is a forest: every symbol
-- but a package has one owner, or none where the receiver of a method is no known type.
import SourceAtlas.Proofs.GraphPasses
import SourceAtlas.Proofs.ListLaws

namespace SourceAtlas

/-! ## Owners -/

namespace Key

/-- The symbol that a symbol belongs to: types and functions belong to their package, and
methods to their receiver. -/
def owner? : Key → Option Key
  | package _ => none
  | type p _ => some (package p)
  | function p _ => some (package p)
  | method p r _ => some (type p r)

/-- The link from an owner to what it contains. -/
def containsLink (owner key : Key) : Link :=
  { source := owner.id, target := key.id, kind := .contains }

end Key

namespace Symbols

/-- Every symbol belongs to a known package. -/
def Housed (s : Symbols) : Prop := ∀ k ∈ s.keys, Key.package k.packagePath ∈ s.packages.keys

/-- The link to a symbol from its owner, when the owner is known. -/
def linkFromOwner? (s : Symbols) (k : Key) : Option Link :=
  (k.owner?.filter (· ∈ s.keys)).map (·.containsLink k)

variable {s : Symbols}

theorem Keyed.mem_keys_type (h : s.Keyed) {p n : String} :
    Key.type p n ∈ s.keys ↔ Key.type p n ∈ s.types.keys :=
  ⟨h.mem_keysFor, fun hmem => types_subset_keys hmem⟩

theorem linkFromOwner?_of_package (hhoused : s.Housed) {k : Key} (hk : k ∈ s.keys)
    (howner : k.owner? = some (.package k.packagePath)) :
    s.linkFromOwner? k = some ((Key.package k.packagePath).containsLink k) := by
  have hknown : Key.package k.packagePath ∈ s.keys := packages_subset_keys (hhoused k hk)
  simp [linkFromOwner?, howner, hknown]

theorem linkFromOwner?_method (h : s.Keyed) (p r n : String) :
    s.linkFromOwner? (.method p r n) =
      if s.hasType p r then some ((Key.type p r).containsLink (.method p r n)) else none := by
  have hknown : s.hasType p r = true ↔ Key.type p r ∈ s.keys :=
    (Table.contains_iff _ _).trans h.mem_keys_type.symm
  unfold linkFromOwner? Key.owner?
  by_cases hin : Key.type p r ∈ s.keys
  · simp [hin, hknown.mpr hin]
  · simp [hin, mt hknown.mp hin]

/-- The pass over what contains what gives each known symbol the link from its owner. -/
theorem containsLinks_eq (h : s.Keyed) (hhoused : s.Housed) :
    s.containsLinks = s.keys.filterMap s.linkFromOwner? := by
  -- table by table: an entry stands under its own key, so the key tells the owner
  have hpackages : s.packages.keys.filterMap s.linkFromOwner? = [] := by
    refine List.filterMap_eq_nil_iff.mpr fun k hk => ?_
    obtain ⟨p, rfl⟩ := h.package_of_mem hk
    rfl
  have htypes : s.types.keys.filterMap s.linkFromOwner? =
      s.types.entries.filterMap fun e => some ((Key.package e.2.package).containsLink e.1) := by
    refine Table.filterMap_keys s.types ?_
    rintro ⟨k, t⟩ he
    have hmem := Table.mem_keys_of_mem he
    obtain rfl : k = .type t.package t.name := h.types.own _ he
    exact linkFromOwner?_of_package hhoused (types_subset_keys hmem) rfl
  have hfunctions : s.functions.keys.filterMap s.linkFromOwner? =
      s.functions.entries.filterMap fun e =>
        some ((Key.package e.2.package).containsLink e.1) := by
    refine Table.filterMap_keys s.functions ?_
    rintro ⟨k, f⟩ he
    have hmem := Table.mem_keys_of_mem he
    obtain rfl : k = .function f.package f.name := h.functions.own _ he
    exact linkFromOwner?_of_package hhoused (functions_subset_keys hmem) rfl
  have hmethods : s.methods.keys.filterMap s.linkFromOwner? =
      s.methods.entries.filterMap fun e =>
        if s.hasType e.2.package e.2.receiver then
          some ((Key.type e.2.package e.2.receiver).containsLink e.1) else none := by
    refine Table.filterMap_keys s.methods ?_
    rintro ⟨k, m⟩ he
    obtain rfl : k = .method m.package m.receiver m.name := h.methods.own _ he
    exact linkFromOwner?_method h m.package m.receiver m.name
  unfold keys
  rw [List.filterMap_append, List.filterMap_append, List.filterMap_append, hpackages, htypes,
    hfunctions, hmethods, List.nil_append, List.filterMap_eq_map', List.filterMap_eq_map']
  rfl

/-! ## The links into one symbol -/

/-- The links into a symbol that say what contains it. -/
def ownersOf (s : Symbols) (id : String) : List Link :=
  s.graph.links.filter fun l => l.kind = .contains ∧ l.target = id

/-- Where ids are distinct, a symbol has the link from its owner and no other. -/
theorem ownersOf_eq (h : s.Keyed) (hhoused : s.Housed)
    (hids : (s.graph.components.map (·.id)).Nodup) {k : Key} (hk : k ∈ s.keys) :
    s.ownersOf k.id = (s.linkFromOwner? k).toList := by
  rw [ids_graph] at hids
  have hinto : s.ownersOf k.id = s.containsLinks.filter (·.target = k.id) := by
    unfold ownersOf
    rw [← containsLinks_graph, List.filter_filter]
    refine List.filter_congr fun l _ => ?_
    rw [Bool.decide_and, Bool.and_comm]
  rw [hinto, containsLinks_eq h hhoused]
  -- a link ends at the text of its own key, and distinct texts tell the keys apart
  refine filter_filterMap_of_unique h.nodup_keys hk ?_
  intro x hx l hl
  obtain ⟨owner, _, rfl⟩ := Option.map_eq_some_iff.mp hl
  constructor
  · intro hid
    exact List.inj_on_of_nodup_map hids hx hk (of_decide_eq_true hid)
  · rintro rfl
    exact decide_eq_true rfl

end Symbols

/-! ## Components and their symbols -/

/-- What the component of a symbol can be. -/
def Key.Appears : Key → Entity → Prop
  | package _, entity => entity = .package
  | type _ _, entity => entity = .struct ∨ entity = .interface
  | function _ _, entity => entity = .function
  | method _ _ _, entity => entity = .method

/-- A component that is no package and no method stands for a symbol that its package owns. -/
theorem Key.Appears.owner_package {k : Key} {entity : Entity} (h : k.Appears entity)
    (hpackage : entity ≠ .package) (hmethod : entity ≠ .method) :
    k.owner? = some (.package k.packagePath) := by
  cases k with
  | package p => exact absurd h hpackage
  | type p n => rfl
  | function p n => rfl
  | method p r n => exact absurd h hmethod

theorem Key.Appears.package {k : Key} (h : k.Appears .package) : ∃ p, k = .package p := by
  cases k with
  | package p => exact ⟨p, rfl⟩
  | type p n => rcases h with h | h <;> cases h
  | function p n => cases h
  | method p r n => cases h

theorem Key.Appears.method {k : Key} (h : k.Appears .method) : ∃ p r n, k = .method p r n := by
  cases k with
  | package p => cases h
  | type p n => rcases h with h | h <;> cases h
  | function p n => cases h
  | method p r n => exact ⟨p, r, n, rfl⟩

theorem TypeKind.entity_cases (kind : TypeKind) :
    kind.entity = .struct ∨ kind.entity = .interface := by
  cases kind <;> simp [entity]

namespace Symbols

variable {s : Symbols}

theorem mem_components {c : Component} :
    c ∈ s.graph.components ↔
      (∃ e ∈ s.packages.entries, c = ⟨e.1.id, e.2.name, .package⟩) ∨
      (∃ e ∈ s.types.entries, c = ⟨e.1.id, e.2.name, e.2.kind.entity⟩) ∨
      (∃ e ∈ s.functions.entries, c = ⟨e.1.id, e.2.name, .function⟩) ∨
      (∃ e ∈ s.methods.entries, c = ⟨e.1.id, e.2.name, .method⟩) := by
  rw [components_graph]
  unfold components
  simp only [List.mem_append, List.mem_map, or_assoc, eq_comm]

/-- Every component stands for a known symbol. -/
theorem Keyed.key_of_component (h : s.Keyed) {c : Component} (hc : c ∈ s.graph.components) :
    ∃ k ∈ s.keys, c.id = k.id ∧ k.Appears c.entity := by
  rcases mem_components.mp hc with ⟨e, he, rfl⟩ | ⟨e, he, rfl⟩ | ⟨e, he, rfl⟩ | ⟨e, he, rfl⟩
  · refine ⟨e.1, packages_subset_keys (Table.mem_keys_of_mem he), rfl, ?_⟩
    rw [h.packages.own e he]
    rfl
  · refine ⟨e.1, types_subset_keys (Table.mem_keys_of_mem he), rfl, ?_⟩
    rw [h.types.own e he]
    exact e.2.kind.entity_cases
  · refine ⟨e.1, functions_subset_keys (Table.mem_keys_of_mem he), rfl, ?_⟩
    rw [h.functions.own e he]
    rfl
  · refine ⟨e.1, methods_subset_keys (Table.mem_keys_of_mem he), rfl, ?_⟩
    rw [h.methods.own e he]
    rfl

/-- Every known symbol has a component. -/
theorem Keyed.component_of_key (h : s.Keyed) {k : Key} (hk : k ∈ s.keys) :
    ∃ c ∈ s.graph.components, c.id = k.id ∧ k.Appears c.entity := by
  have hin := h.mem_keysFor hk
  cases k with
  | package p =>
    obtain ⟨e, he, hkey⟩ := List.mem_map.mp hin
    exact ⟨_, mem_components.mpr (Or.inl ⟨e, he, rfl⟩), congrArg Key.id hkey, rfl⟩
  | type p n =>
    obtain ⟨e, he, hkey⟩ := List.mem_map.mp hin
    exact ⟨_, mem_components.mpr (Or.inr (Or.inl ⟨e, he, rfl⟩)), congrArg Key.id hkey,
      e.2.kind.entity_cases⟩
  | function p n =>
    obtain ⟨e, he, hkey⟩ := List.mem_map.mp hin
    exact ⟨_, mem_components.mpr (Or.inr (Or.inr (Or.inl ⟨e, he, rfl⟩))), congrArg Key.id hkey, rfl⟩
  | method p r n =>
    obtain ⟨e, he, hkey⟩ := List.mem_map.mp hin
    exact ⟨_, mem_components.mpr (Or.inr (Or.inr (Or.inr ⟨e, he, rfl⟩))), congrArg Key.id hkey, rfl⟩

/-! ## Components and their owners -/

section

variable (h : s.Keyed) (hhoused : s.Housed) (hids : (s.graph.components.map (·.id)).Nodup)
  {c : Component} (hc : c ∈ s.graph.components)

include h hhoused hids hc

theorem ownersOf_package (hentity : c.entity = .package) : s.ownersOf c.id = [] := by
  obtain ⟨k, hk, hid, happears⟩ := h.key_of_component hc
  obtain ⟨p, rfl⟩ := (hentity ▸ happears).package
  rw [hid, ownersOf_eq h hhoused hids hk]
  rfl

theorem ownersOf_member
    (hentity : c.entity = .struct ∨ c.entity = .interface ∨ c.entity = .function) :
    ∃ k ∈ s.types.keys ++ s.functions.keys, c.id = k.id ∧
      ∃ p ∈ s.graph.components, p.entity = .package ∧ p.id = k.packagePath ∧
        s.ownersOf c.id = [{ source := p.id, target := c.id, kind := .contains }] := by
  obtain ⟨k, hk, hid, happears⟩ := h.key_of_component hc
  have howner : k.owner? = some (.package k.packagePath) := by
    apply happears.owner_package
    · rcases hentity with he | he | he <;> rw [he] <;> decide
    · rcases hentity with he | he | he <;> rw [he] <;> decide
  have hin : k ∈ s.types.keys ++ s.functions.keys := by
    have hfor := h.mem_keysFor hk
    cases k with
    | package p => cases howner
    | type p n => exact List.mem_append_left _ hfor
    | function p n => exact List.mem_append_right _ hfor
    | method p r n => cases howner
  obtain ⟨p, hp, hpid, hpackage⟩ := h.component_of_key (packages_subset_keys (hhoused k hk))
  refine ⟨k, hin, hid, p, hp, hpackage, hpid, ?_⟩
  rw [hid, ownersOf_eq h hhoused hids hk, linkFromOwner?_of_package hhoused hk howner, hpid]
  rfl

theorem ownersOf_method (hentity : c.entity = .method) :
    ∃ p r n, Key.method p r n ∈ s.methods.keys ∧ c.id = (Key.method p r n).id ∧
      (Key.type p r ∈ s.types.keys →
        ∃ t ∈ s.graph.components, (t.entity = .struct ∨ t.entity = .interface) ∧
          t.id = (Key.type p r).id ∧
          s.ownersOf c.id = [{ source := t.id, target := c.id, kind := .contains }]) ∧
      (Key.type p r ∉ s.types.keys → s.ownersOf c.id = []) := by
  obtain ⟨k, hk, hid, happears⟩ := h.key_of_component hc
  obtain ⟨p, r, n, rfl⟩ := (hentity ▸ happears).method
  have htype : s.hasType p r = true ↔ Key.type p r ∈ s.types.keys := Table.contains_iff _ _
  refine ⟨p, r, n, h.mem_keysFor hk, hid, ?_, ?_⟩
  · intro hknown
    obtain ⟨t, ht, htid, hstruct⟩ := h.component_of_key (h.mem_keys_type.mpr hknown)
    refine ⟨t, ht, hstruct, htid, ?_⟩
    rw [hid, ownersOf_eq h hhoused hids hk, linkFromOwner?_method h, if_pos (htype.mpr hknown),
      htid]
    rfl
  · intro hunknown
    rw [hid, ownersOf_eq h hhoused hids hk, linkFromOwner?_method h, if_neg (mt htype.mp hunknown)]
    rfl

end

end Symbols

/-! ## The law -/

namespace Origin

theorem housed_gather (o : Origin) (files : List SourceFile) : (o.gather files).Housed := by
  intro k hk
  obtain ⟨file, hfile, hpackage⟩ := package_of_declares (o.mem_keys_gather.mp hk)
  rw [hpackage]
  exact (o.mem_packages_gather files _).mpr ⟨file, hfile, rfl⟩

/-- A type is known when any of the files of its package declares it, in whatever order. -/
theorem mem_types_gather (o : Origin) (files : List SourceFile) (p n : String) :
    Key.type p n ∈ (o.gather files).types.keys ↔
      ∃ file ∈ files, o.package file = p ∧
        ∃ t, Declaration.type t ∈ o.declarations file ∧ t.name = n := by
  rw [types_gather, mem_keys_stream]
  constructor
  · rintro ⟨file, hfile, d, hd, t, hpick⟩
    cases d with
    | type t =>
      cases hpick
      exact ⟨file, hfile, (package_of_mem_declarations hd).symm, t, hd, rfl⟩
    | plainType q m => cases hpick
    | function f => cases hpick
    | method m => cases hpick
  · rintro ⟨file, hfile, rfl, t, hd, rfl⟩
    have hpackage : t.package = o.package file := package_of_mem_declarations hd
    refine ⟨file, hfile, _, hd, t, ?_⟩
    rw [← hpackage]
    rfl

/-- Where ids are distinct, containment is a forest and is complete: nothing contains a package,
a type or a function is contained once and by its package, and a method is contained once and by
the type that it is declared for, when that type is known. A type is known wherever it is
declared in the package of the method. -/
theorem containment_is_a_complete_forest (o : Origin) (files : List SourceFile)
    (hids : ((o.gather files).graph.components.map (·.id)).Nodup) :
    let s := o.gather files
    (∀ c ∈ s.graph.components, c.entity = .package → s.ownersOf c.id = []) ∧
      (∀ c ∈ s.graph.components,
        c.entity = .struct ∨ c.entity = .interface ∨ c.entity = .function →
        ∃ k ∈ s.types.keys ++ s.functions.keys, c.id = k.id ∧
          ∃ p ∈ s.graph.components, p.entity = .package ∧ p.id = k.packagePath ∧
            s.ownersOf c.id = [{ source := p.id, target := c.id, kind := .contains }]) ∧
      (∀ c ∈ s.graph.components, c.entity = .method →
        ∃ p r n, Key.method p r n ∈ s.methods.keys ∧ c.id = (Key.method p r n).id ∧
          (Key.type p r ∈ s.types.keys →
            ∃ t ∈ s.graph.components, (t.entity = .struct ∨ t.entity = .interface) ∧
              t.id = (Key.type p r).id ∧
              s.ownersOf c.id = [{ source := t.id, target := c.id, kind := .contains }]) ∧
          (Key.type p r ∉ s.types.keys → s.ownersOf c.id = [])) ∧
      ∀ p n, Key.type p n ∈ s.types.keys ↔
        ∃ file ∈ files, o.package file = p ∧
          ∃ t, Declaration.type t ∈ o.declarations file ∧ t.name = n := by
  intro s
  have hk : s.Keyed := o.keyed_gather files
  have hhoused : s.Housed := o.housed_gather files
  refine ⟨?_, ?_, ?_, o.mem_types_gather files⟩
  · intro c hc hentity
    exact Symbols.ownersOf_package hk hhoused hids hc hentity
  · intro c hc hentity
    exact Symbols.ownersOf_member hk hhoused hids hc hentity
  · intro c hc hentity
    exact Symbols.ownersOf_method hk hhoused hids hc hentity

end Origin

namespace Node

/-- A method without a body for the type `receiver`. -/
def bareMethod (receiver name : String) : Node :=
  .mk { kind := "method_declaration" }
    [.mk { kind := "parameter_list", field := some "receiver" }
      [.mk { kind := "parameter_declaration" }
        [.mk { kind := "type_identifier", field := some "type", text := some receiver } []]],
     .mk { kind := "field_identifier", field := some "name", text := some name } []]

/-- A record type without fields. -/
def bareRecord (name : String) : Node :=
  .mk { kind := "type_declaration" }
    [.mk { kind := "type_spec" }
      [.mk { kind := "type_identifier", field := some "name", text := some name } [],
       .mk { kind := "struct_type", field := some "type" } []]]

end Node

namespace Origin

/-- One file with methods of `T` and `U`, and a later one with the type `T`. -/
def methodsFirst : List SourceFile :=
  [⟨"/r/x.go", .mk { kind := "source_file" } [.bareMethod "T" "run", .bareMethod "U" "stop"]⟩,
   ⟨"/r/y.go", .mk { kind := "source_file" } [.bareRecord "T"]⟩]

/-- A method that comes before its type, and in another file, is contained in it. A method of a
type that nothing declares is contained in nothing. -/
theorem a_method_finds_its_type_in_a_later_file :
    let s := (⟨"/", "/r", "m"⟩ : Origin).gather methodsFirst
    (s.graph.components.map (·.id)).Nodup ∧
      s.ownersOf "m.T.run" = [{ source := "m.T", target := "m.T.run", kind := .contains }] ∧
      s.ownersOf "m.U.stop" = [] := by
  intro s
  have hids : (s.graph.components.map (·.id)).Nodup := by subst s; decide +kernel
  have hrun : ⟨"m.T.run", "run", .method⟩ ∈ s.graph.components := by subst s; decide +kernel
  have hstop : ⟨"m.U.stop", "stop", .method⟩ ∈ s.graph.components := by subst s; decide +kernel
  have hmethods : s.methods.keys = [.method "m" "T" "run", .method "m" "U" "stop"] := by
    subst s; decide +kernel
  have htypes : s.types.keys = [.type "m" "T"] := by subst s; decide +kernel
  have hlaw := (containment_is_a_complete_forest ⟨"/", "/r", "m"⟩ methodsFirst hids).2.2.1
  refine ⟨hids, ?_, ?_⟩
  · obtain ⟨p, r, n, hmem, hid, hknown, _⟩ := hlaw _ hrun rfl
    rcases List.mem_pair.mp (hmethods ▸ hmem) with hkey | hkey
    · cases hkey
      obtain ⟨t, _, _, htid, howners⟩ := hknown (by rw [htypes]; exact List.mem_singleton_self _)
      rw [htid] at howners
      exact howners
    · cases hkey
      exact absurd hid (by decide)
  · obtain ⟨p, r, n, hmem, hid, _, hunknown⟩ := hlaw _ hstop rfl
    rcases List.mem_pair.mp (hmethods ▸ hmem) with hkey | hkey
    · cases hkey
      exact absurd hid (by decide)
    · cases hkey
      refine hunknown ?_
      rw [htypes]
      decide

end Origin

end SourceAtlas
