-- What a type expression comes down to. Pointers, slices, arrays and maps are taken off one
-- at a time, and what is left at the end is a plain name, a qualified name or no name at all.
import Mathlib.Logic.Relation
import SourceAtlas.Symbol.Declaration

namespace SourceAtlas.Node

/-! ## Taking off what wraps a type -/

/-- One wrapping is taken off. Of a map only the values count. -/
inductive Unwraps : Node → Node → Prop
  | pointer {n inner : Node} (hkind : n.kind = "pointer_type")
      (hinner : n.parts.head? = some inner) : Unwraps n inner
  | element {n inner : Node}
      (hkind : n.kind ∈ ["slice_type", "array_type", "implicit_length_array_type"])
      (hinner : n.child? "element" = some inner) : Unwraps n inner
  | value {n inner : Node} (hkind : n.kind = "map_type")
      (hinner : n.child? "value" = some inner) : Unwraps n inner

/-- Any number of wrappings is taken off. -/
def UnwrapsTo : Node → Node → Prop := Relation.ReflTransGen Unwraps

theorem unwrap?_eq_some_iff {n inner : Node} : n.unwrap? = some inner ↔ n.Unwraps inner := by
  constructor
  · intro h
    unfold unwrap? at h
    split at h
    · exact .pointer ‹_› h
    · exact .element (by simp [*]) h
    · exact .element (by simp [*]) h
    · exact .element (by simp [*]) h
    · exact .value ‹_› h
    · cases h
  · rintro (⟨hkind, h⟩ | ⟨hkind, h⟩ | ⟨hkind, h⟩)
    · simpa [unwrap?, hkind, pointee?] using h
    · simp only [List.mem_cons, List.not_mem_nil, or_false] at hkind
      rcases hkind with hkind | hkind | hkind <;> simpa [unwrap?, hkind] using h
    · simpa [unwrap?, hkind] using h

theorem typeName_of_unwraps {n inner : Node} (h : n.Unwraps inner) (package : String) :
    n.typeName package = inner.typeName package := by
  rw [typeName]
  split
  · rename_i other hother
    rw [unwrap?_eq_some_iff.mpr h] at hother
    cases hother
    rfl
  · rename_i hnone
    rw [unwrap?_eq_some_iff.mpr h] at hnone
    cases hnone

theorem typeName_of_leaf {n : Node} (h : n.unwrap? = none) (package : String) :
    n.typeName package =
      match n.kind with
      | "type_identifier" => ⟨n.text, package⟩
      | "qualified_type" => ⟨textOf (n.child? "name"), textOf (n.child? "package")⟩
      | _ => .unresolved := by
  rw [typeName]
  split
  · rename_i inner hinner
    rw [h] at hinner
    cases hinner
  · rfl

theorem typeName_of_unwrapsTo {n leaf : Node} (h : n.UnwrapsTo leaf) (package : String) :
    n.typeName package = leaf.typeName package := by
  induction h with
  | refl => rfl
  | tail _ hstep ih => rw [ih, typeName_of_unwraps hstep]

/-- The name that a type expression comes down to is the same in every package. -/
theorem name_typeName (p p' : String) (n : Node) : (n.typeName p').name = (n.typeName p).name := by
  fun_induction typeName p n with
  | case1 n inner hstep ih => rw [typeName_of_unwraps (unwrap?_eq_some_iff.mp hstep), ih]
  | case2 n hstop hkind => simp [typeName_of_leaf hstop, hkind]
  | case3 n hstop hkind => simp [typeName_of_leaf hstop, hkind]
  | case4 n hstop hplain hqualified =>
    rw [typeName_of_leaf hstop]
    split
    · exact absurd ‹_› hplain
    · exact absurd ‹_› hqualified
    · rfl

/-! ## The name that is left -/

/-- What a type expression means in a package: a plain name is one of that package, and a
qualified name keeps the word that qualifies it. -/
inductive Denotes (package : String) (type : Node) : String → String → Prop
  | plain {leaf : Node} (hleaf : type.UnwrapsTo leaf) (hkind : leaf.kind = "type_identifier") :
      Denotes package type leaf.text package
  | qualified {leaf : Node} (hleaf : type.UnwrapsTo leaf) (hkind : leaf.kind = "qualified_type") :
      Denotes package type (textOf (leaf.child? "name")) (textOf (leaf.child? "package"))

theorem typeName_of_denotes {package name qualifier : String} {type : Node}
    (h : type.Denotes package name qualifier) : type.typeName package = ⟨name, qualifier⟩ := by
  rcases h with ⟨hleaf, hkind⟩ | ⟨hleaf, hkind⟩
  · rw [typeName_of_unwrapsTo hleaf, typeName_of_leaf (by simp [unwrap?, hkind])]
    simp [hkind]
  · rw [typeName_of_unwrapsTo hleaf, typeName_of_leaf (by simp [unwrap?, hkind])]
    simp [hkind]

theorem denotes_or_unresolved (package : String) (type : Node) :
    type.Denotes package (type.typeName package).name (type.typeName package).package ∨
      type.typeName package = .unresolved := by
  fun_induction typeName package type with
  | case1 n inner hstep ih =>
    -- what the inner expression means, the outer one means with one wrapping more
    have hfirst : n.Unwraps inner := unwrap?_eq_some_iff.mp hstep
    rcases ih with ih | ih
    · left
      generalize inner.typeName package = name at ih ⊢
      rcases name with ⟨name, qualifier⟩
      rcases ih with ⟨hleaf, hkind⟩ | ⟨hleaf, hkind⟩
      · exact .plain (.head hfirst hleaf) hkind
      · exact .qualified (.head hfirst hleaf) hkind
    · exact Or.inr ih
  | case2 n hstop hkind => exact Or.inl (.plain .refl hkind)
  | case3 n hstop hkind => exact Or.inl (.qualified .refl hkind)
  | case4 n hstop hplain hqualified => exact Or.inr rfl

/-- A type expression resolves to a name exactly when it means that name. -/
theorem typeName_eq_iff {package name qualifier : String} {type : Node} (hname : name ≠ "") :
    type.typeName package = ⟨name, qualifier⟩ ↔ type.Denotes package name qualifier := by
  constructor
  · intro h
    rcases denotes_or_unresolved package type with hdenotes | hnone
    · simpa [h] using hdenotes
    · rw [hnone] at h
      exact absurd (congrArg TypeName.name h).symm hname
  · exact typeName_of_denotes

theorem fieldType_eq_iff {package name qualifier : String} {field : Node} (hname : name ≠ "") :
    field.fieldType package = ⟨name, qualifier⟩ ↔
      ∃ type, field.child? "type" = some type ∧ type.Denotes package name qualifier := by
  unfold fieldType
  cases field.child? "type" with
  | none =>
    have hnone : typeNameOf package none ≠ ⟨name, qualifier⟩ :=
      fun h => hname (congrArg TypeName.name h).symm
    simp [hnone]
  | some type => simpa [typeNameOf] using typeName_eq_iff hname

end SourceAtlas.Node
