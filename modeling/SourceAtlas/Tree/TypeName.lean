-- The name that a type expression comes down to. Pointers, slices, arrays and
-- map values are unwrapped; what is left is a plain name, a qualified name, or
-- nothing that has a name.
import SourceAtlas.Tree.Node

namespace SourceAtlas

/-- A type name with the package it is looked up in. -/
structure TypeName where
  name : String
  package : String
  deriving DecidableEq, Repr, Inhabited

namespace TypeName

/-- What a type expression without a name resolves to. -/
def unresolved : TypeName := ⟨"", ""⟩

/-- The type names of the language itself. They never name a declared type. -/
def primitives : List String :=
  ["bool", "string", "int", "int8", "int16", "int32", "int64",
   "uint", "uint8", "uint16", "uint32", "uint64", "uintptr",
   "byte", "rune", "float32", "float64", "complex64", "complex128", "error"]

/-- The name belongs to the language itself. -/
def isPrimitive (name : String) : Bool := primitives.contains name

end TypeName

namespace Node

/-- What a pointer points to: its first part. -/
def pointee? (n : Node) : Option Node := n.parts.head?

/-- One step from a type expression to the one it wraps. -/
def unwrap? (n : Node) : Option Node :=
  match n.kind with
  | "pointer_type" => n.pointee?
  | "slice_type" | "array_type" | "implicit_length_array_type" => n.child? "element"
  | "map_type" => n.child? "value"
  | _ => none

theorem count_lt_of_mem {n c : Node} (h : c ∈ n.children) : c.count < n.count := by
  have aux : ∀ cs : List Node, c ∈ cs → c.count ≤ countAll cs := by
    intro cs
    induction cs with
    | nil => simp
    | cons d ds ih =>
      intro h
      rcases List.mem_cons.mp h with rfl | h
      · simp [countAll]
      · have := ih h
        simp only [countAll]; omega
  cases n with
  | mk l cs =>
    have := aux cs h
    simp only [count]; omega

theorem unwrap?_mem {n c : Node} (h : n.unwrap? = some c) : c ∈ n.children := by
  unfold unwrap? at h
  split at h
  · exact (List.mem_filter.mp (List.mem_of_mem_head? h)).1
  · exact List.mem_of_find?_eq_some h
  · exact List.mem_of_find?_eq_some h
  · exact List.mem_of_find?_eq_some h
  · exact List.mem_of_find?_eq_some h
  · contradiction

/-- The name and package of a type expression in `package`. -/
def typeName (package : String) (n : Node) : TypeName :=
  match _h : n.unwrap? with
  | some inner => inner.typeName package
  | none =>
    match n.kind with
    | "type_identifier" => ⟨n.text, package⟩
    | "qualified_type" => ⟨textOf (n.child? "name"), textOf (n.child? "package")⟩
    | _ => .unresolved
termination_by n.count
decreasing_by exact count_lt_of_mem (unwrap?_mem _h)

/-- The name and package of a type expression that may be absent. -/
def typeNameOf (package : String) : Option Node → TypeName
  | some n => n.typeName package
  | none => .unresolved

/-- The text of a plain type name, and nothing for any other node. -/
def plainTypeName (n : Node) : String :=
  if n.kind == "type_identifier" then n.text else ""

/-- The type that a receiver names: `T` and `*T` name `T`, all else names nothing. -/
def receiverName : Option Node → String
  | none => ""
  | some n =>
    if n.kind == "pointer_type" then
      match n.pointee? with
      | some inner => inner.plainTypeName
      | none => ""
    else n.plainTypeName

end Node

end SourceAtlas
