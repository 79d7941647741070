-- Where the wrappings of a type expression end. Every expression has one last node, and the
-- kind of that node alone says which name the expression has.
import Mathlib.Logic.ExistsUnique
import SourceAtlas.Proofs.TypeExpressions

namespace SourceAtlas.Node

/-! ## The last node -/

/-- The wrappings of a type expression end in a node: they lead to it, and nothing can be taken
off it. It wraps nothing, or what it should wrap is not there. -/
structure EndsIn (type leaf : Node) : Prop where
  chain : type.UnwrapsTo leaf
  last : ∀ inner, ¬ leaf.Unwraps inner

theorem unwraps_rightUnique : Relator.RightUnique Unwraps := by
  intro n inner inner' h h'
  have hsame : some inner = some inner' :=
    (unwrap?_eq_some_iff.mpr h).symm.trans (unwrap?_eq_some_iff.mpr h')
  exact Option.some.inj hsame

theorem unwrap?_eq_none_iff {n : Node} : n.unwrap? = none ↔ ∀ inner, ¬ n.Unwraps inner := by
  simp only [← unwrap?_eq_some_iff, Option.eq_none_iff_forall_ne_some, ne_eq]

theorem EndsIn.of_unwraps {n inner leaf : Node} (h : inner.EndsIn leaf) (hstep : n.Unwraps inner) :
    n.EndsIn leaf :=
  ⟨.head hstep h.chain, h.last⟩

/-- There is a last node, because a tree has no endless way down. -/
theorem exists_endsIn (type : Node) : ∃ leaf, type.EndsIn leaf := by
  cases hstep : type.unwrap? with
  | none => exact ⟨type, .refl, unwrap?_eq_none_iff.mp hstep⟩
  | some inner =>
    obtain ⟨leaf, hleaf⟩ := exists_endsIn inner
    exact ⟨leaf, hleaf.of_unwraps (unwrap?_eq_some_iff.mp hstep)⟩
termination_by type.count
decreasing_by exact count_lt_of_mem (unwrap?_mem hstep)

theorem EndsIn.eq_of_unwrapsTo {type leaf node : Node} (h : type.EndsIn leaf)
    (hnode : leaf.UnwrapsTo node) : leaf = node := by
  rcases hnode.cases_head with heq | ⟨inner, hstep, _⟩
  · exact heq
  · exact absurd hstep (h.last inner)

/-- There is one last node only: of two ways down from an expression one goes on from the
other. -/
theorem EndsIn.unique {type leaf leaf' : Node} (h : type.EndsIn leaf) (h' : type.EndsIn leaf') :
    leaf = leaf' := by
  rcases h.chain.total_of_right_unique unwraps_rightUnique h'.chain with hon | hon
  · exact h.eq_of_unwrapsTo hon
  · exact (h'.eq_of_unwrapsTo hon).symm

/-! ## What the last node says -/

theorem EndsIn.unresolved {type leaf : Node} (h : type.EndsIn leaf)
    (hplain : leaf.kind ≠ "type_identifier") (hqualified : leaf.kind ≠ "qualified_type")
    (package : String) : type.typeName package = .unresolved := by
  rw [typeName_of_unwrapsTo h.chain, typeName_of_leaf (unwrap?_eq_none_iff.mpr h.last)]
  split
  · exact absurd ‹_› hplain
  · exact absurd ‹_› hqualified
  · rfl

theorem kind_of_plainTypeName {n : Node} (h : n.plainTypeName ≠ "") :
    n.kind = "type_identifier" ∧ n.plainTypeName = n.text := by
  unfold plainTypeName at h ⊢
  split
  · rename_i hkind
    exact ⟨by simpa using hkind, rfl⟩
  · rename_i hkind
    rw [if_neg hkind] at h
    exact absurd rfl h

/-- A receiver names a type when it is that name, or a pointer right in front of it. -/
theorem denotes_of_receiverName {type : Node} (h : receiverName (some type) ≠ "")
    (package : String) : type.Denotes package (receiverName (some type)) package := by
  by_cases hpointer : type.kind = "pointer_type"
  · cases hinner : type.pointee? with
    | none => simp [receiverName, hpointer, hinner] at h
    | some inner =>
      have hname : receiverName (some type) = inner.plainTypeName := by
        simp [receiverName, hpointer, hinner]
      rw [hname] at h ⊢
      obtain ⟨hkind, htext⟩ := kind_of_plainTypeName h
      rw [htext]
      exact .plain (.single (.pointer hpointer hinner)) hkind
  · have hname : receiverName (some type) = type.plainTypeName := by
      simp [receiverName, hpointer]
    rw [hname] at h ⊢
    obtain ⟨hkind, htext⟩ := kind_of_plainTypeName h
    rw [htext]
    exact .plain .refl hkind

/-! ## The law -/

/-- The wrappings of a type expression end in one node and no other. A plain name at the end is
the name of the expression in the package where it stands, a qualified name is its name in the
package that it is qualified with, and with anything else at the end, or with nothing where
something should be wrapped, the expression has no name. So the name is the same in every
package, whatever wraps an expression leaves its name and package as they are, and a receiver
that names a type names the one that it resolves to. -/
theorem a_type_has_the_name_that_its_wrappings_end_in (type : Node) (package : String) :
    (∃! leaf, type.EndsIn leaf) ∧
      (∀ leaf, type.UnwrapsTo leaf → leaf.kind = "type_identifier" →
        typeNameOf package (some type) = ⟨leaf.text, package⟩) ∧
      (∀ leaf, type.UnwrapsTo leaf → leaf.kind = "qualified_type" →
        typeNameOf package (some type) =
          ⟨textOf (leaf.child? "name"), textOf (leaf.child? "package")⟩) ∧
      (∀ leaf, type.EndsIn leaf → leaf.kind ≠ "type_identifier" → leaf.kind ≠ "qualified_type" →
        typeNameOf package (some type) = ⟨"", ""⟩) ∧
      (∀ other, (typeNameOf other (some type)).name = (typeNameOf package (some type)).name) ∧
      (∀ outer : Node, outer.UnwrapsTo type →
        typeNameOf package (some outer) = typeNameOf package (some type)) ∧
      (receiverName (some type) ≠ "" →
        typeNameOf package (some type) = ⟨receiverName (some type), package⟩) := by
  refine ⟨?_, ?_, ?_, ?_, ?_, ?_, ?_⟩
  · obtain ⟨leaf, hleaf⟩ := exists_endsIn type
    exact ⟨leaf, hleaf, fun other hother => hother.unique hleaf⟩
  · intro leaf hleaf hkind
    exact typeName_of_denotes (.plain hleaf hkind)
  · intro leaf hleaf hkind
    exact typeName_of_denotes (.qualified hleaf hkind)
  · intro leaf hleaf hplain hqualified
    exact hleaf.unresolved hplain hqualified package
  · intro other
    exact type.name_typeName package other
  · intro outer houter
    exact typeName_of_unwrapsTo houter package
  · intro hreceiver
    exact typeName_of_denotes (denotes_of_receiverName hreceiver package)

/-- The name `T` as an element. -/
def elementName : Node :=
  .mk { kind := "type_identifier", field := some "element", text := some "T" } []

/-- A pointer with a comment after its star, in the role of a value. -/
def pointerTo (inner : List Node) : Node :=
  .mk { kind := "pointer_type", field := some "value" }
    (.mk { kind := "*", named := false } [] :: .mk { kind := "comment" } [] :: inner)

/-- A map from texts to what is given. -/
def mapTo (value : Node) : Node :=
  .mk { kind := "map_type" }
    [.mk { kind := "type_identifier", field := some "key", text := some "string" } [], value]

/-- A map of pointers to slices of `T` comes down to `T`, a map of pointers to nothing has no
name, and the receiver `*T` is the `T` of its package. -/
theorem a_map_of_pointers_comes_down_to_what_they_point_to :
    (mapTo (pointerTo [.mk { kind := "slice_type" } [elementName]])).UnwrapsTo elementName ∧
      typeNameOf "m" (some (mapTo (pointerTo [.mk { kind := "slice_type" } [elementName]]))) =
        ⟨"T", "m"⟩ ∧
      (mapTo (pointerTo [])).EndsIn (pointerTo []) ∧
      typeNameOf "m" (some (mapTo (pointerTo []))) = ⟨"", ""⟩ ∧
      receiverName (some (pointerTo [elementName])) = "T" ∧
      typeNameOf "m" (some (pointerTo [elementName])) = ⟨"T", "m"⟩ := by
  have hdown : (mapTo (pointerTo [.mk { kind := "slice_type" } [elementName]])).UnwrapsTo
      elementName :=
    .head (.value rfl rfl) (.head (.pointer rfl rfl) (.single (.element (by decide) rfl)))
  have hnothing : (mapTo (pointerTo [])).EndsIn (pointerTo []) :=
    ⟨.single (.value rfl rfl), unwrap?_eq_none_iff.mp rfl⟩
  have hreceiver : receiverName (some (pointerTo [elementName])) = "T" := by decide
  obtain ⟨_, hplain, _⟩ := a_type_has_the_name_that_its_wrappings_end_in
    (mapTo (pointerTo [.mk { kind := "slice_type" } [elementName]])) "m"
  obtain ⟨_, _, _, hother, _⟩ := a_type_has_the_name_that_its_wrappings_end_in
    (mapTo (pointerTo [])) "m"
  obtain ⟨_, _, _, _, _, _, hname⟩ := a_type_has_the_name_that_its_wrappings_end_in
    (pointerTo [elementName]) "m"
  refine ⟨hdown, hplain _ hdown rfl, hnothing, hother _ hnothing (by decide) (by decide),
    hreceiver, ?_⟩
  rw [hname (by rw [hreceiver]; decide), hreceiver]

end SourceAtlas.Node
