-- Which texts of a file are asked for when it is entered: the name of its package, the paths of its
-- imports, and the words that tell its declarations. A file that has bytes in one of these places
-- that are no text cannot be entered; anywhere else such bytes do not matter.
import SourceAtlas.Proofs.TypeExpressions
import SourceAtlas.Symbol.Asked

namespace SourceAtlas.Node

/-! ## Types and calls -/

/-- The texts that tell a type: that of the plain name in which its wrappings end, or those of the
two parts of a qualified name. -/
inductive AskedOfType (type : Node) : Node → Prop
  | plain {leaf : Node} : type.UnwrapsTo leaf → leaf.kind = "type_identifier" →
    AskedOfType type leaf
  | qualified {leaf n : Node} {field : String} : type.UnwrapsTo leaf →
    leaf.kind = "qualified_type" → field ∈ ["name", "package"] → leaf.child? field = some n →
    AskedOfType type n

/-- The texts that tell a call: that of a bare name that is called, or those of the bare name and of
what is selected from it. -/
inductive AskedOfCall (call : Node) : Node → Prop
  | callee {n : Node} : call.child? "function" = some n → n.kind = "identifier" →
    AskedOfCall call n
  | operand {callee n : Node} : call.child? "function" = some callee →
    callee.kind = "selector_expression" → callee.child? "operand" = some n →
    n.kind = "identifier" → AskedOfCall call n
  | selected {callee operand n : Node} : call.child? "function" = some callee →
    callee.kind = "selector_expression" → callee.child? "operand" = some operand →
    operand.kind = "identifier" → callee.child? "field" = some n → AskedOfCall call n

theorem askedByType_of_unwraps {type inner : Node} (h : type.Unwraps inner) :
    type.askedByType = inner.askedByType := by
  rw [askedByType]
  split
  · rename_i other hother
    rw [unwrap?_eq_some_iff.mpr h] at hother
    cases hother
    rfl
  · rename_i hnone
    rw [unwrap?_eq_some_iff.mpr h] at hnone
    cases hnone

theorem askedByType_of_leaf {type : Node} (h : type.unwrap? = none) :
    type.askedByType =
      match type.kind with
      | "type_identifier" => [type]
      | "qualified_type" => (type.child? "name").toList ++ (type.child? "package").toList
      | _ => [] := by
  rw [askedByType]
  split
  · rename_i inner hinner
    rw [h] at hinner
    cases hinner
  · rfl

/-- A type expression that wraps nothing ends in itself. -/
theorem eq_of_unwrapsTo {type leaf : Node} (h : type.unwrap? = none) (hleaf : type.UnwrapsTo leaf) :
    leaf = type := by
  rcases hleaf.cases_head with heq | ⟨inner, hinner, _⟩
  · exact heq.symm
  · rw [unwrap?_eq_some_iff.mpr hinner] at h
    cases h

/-- The end of a wrapping is the end of what it wraps. -/
theorem unwrapsTo_inner {type inner leaf : Node} (h : type.Unwraps inner)
    (hleaf : type.UnwrapsTo leaf) (hend : leaf.unwrap? = none) : inner.UnwrapsTo leaf := by
  have hinner := unwrap?_eq_some_iff.mpr h
  rcases hleaf.cases_head with rfl | ⟨other, hother, hrest⟩
  · rw [hinner] at hend
    cases hend
  · rw [unwrap?_eq_some_iff.mpr hother] at hinner
    cases hinner
    exact hrest

theorem mem_askedByType_iff {type n : Node} : n ∈ type.askedByType ↔ type.AskedOfType n := by
  fun_induction askedByType type with
  | case1 type inner hstep ih =>
    have hfirst : type.Unwraps inner := unwrap?_eq_some_iff.mp hstep
    rw [ih]
    constructor
    · rintro (⟨hleaf, hkind⟩ | ⟨hleaf, hkind, hfield, hn⟩)
      · exact .plain (.head hfirst hleaf) hkind
      · exact .qualified (.head hfirst hleaf) hkind hfield hn
    · rintro (⟨hleaf, hkind⟩ | ⟨hleaf, hkind, hfield, hn⟩)
      · exact .plain (unwrapsTo_inner hfirst hleaf (by simp [unwrap?, hkind])) hkind
      · exact .qualified (unwrapsTo_inner hfirst hleaf (by simp [unwrap?, hkind])) hkind hfield hn
  | case2 type hstop hkind =>
    rw [List.mem_singleton]
    constructor
    · rintro rfl
      exact .plain .refl hkind
    · rintro (⟨hleaf, _⟩ | ⟨hleaf, hother, _⟩)
      · exact eq_of_unwrapsTo hstop hleaf
      · rw [eq_of_unwrapsTo hstop hleaf, hkind] at hother
        exact absurd hother (by decide)
  | case3 type hstop hkind =>
    simp only [List.mem_append, Option.mem_toList]
    constructor
    · rintro (hn | hn)
      · exact .qualified .refl hkind (by simp) hn
      · exact .qualified .refl hkind (by simp) hn
    · rintro (⟨hleaf, hother⟩ | ⟨hleaf, _, hfield, hn⟩)
      · rw [eq_of_unwrapsTo hstop hleaf, hkind] at hother
        exact absurd hother (by decide)
      · rw [eq_of_unwrapsTo hstop hleaf] at hn
        simp only [List.mem_cons, List.not_mem_nil, or_false] at hfield
        rcases hfield with rfl | rfl
        · exact .inl hn
        · exact .inr hn
  | case4 type hstop hplain hqualified =>
    simp only [List.not_mem_nil, false_iff]
    rintro (⟨hleaf, hkind⟩ | ⟨hleaf, hkind, _⟩)
    · exact hplain (eq_of_unwrapsTo hstop hleaf ▸ hkind)
    · exact hqualified (eq_of_unwrapsTo hstop hleaf ▸ hkind)

theorem mem_askedByCall_iff {call n : Node} : n ∈ call.askedByCall ↔ call.AskedOfCall n := by
  constructor
  · intro h
    unfold askedByCall at h
    split at h
    · cases h
    · rename_i callee hcallee
      split at h
      · rename_i hname
        cases List.mem_singleton.mp h
        exact .callee hcallee (by simpa using hname)
      · split at h
        · rename_i hselector
          split at h
          · rename_i operand hoperand
            split at h
            · rename_i hname
              rcases List.mem_append.mp h with hn | hn
              · exact .selected hcallee (by simpa using hselector) hoperand (by simpa using hname)
                  (Option.mem_toList.mp hn)
              · cases List.mem_singleton.mp hn
                exact .operand hcallee (by simpa using hselector) hoperand (by simpa using hname)
            · cases h
          · cases h
        · cases h
  · intro h
    unfold askedByCall
    cases h with
    | callee hcallee hname => simp [hcallee, hname]
    | operand hcallee hselector hoperand hname => simp [hcallee, hselector, hoperand, hname]
    | selected hcallee hselector hoperand hname hn =>
      simp [hcallee, hselector, hoperand, hname, hn]

/-! ## Declarations -/

/-- The texts that tell a field declaration: those of its type, and its names when the type comes
down to a name. -/
inductive AskedOfField (field : Node) : Node → Prop
  | type {type n : Node} : field.child? "type" = some type → type.AskedOfType n →
    AskedOfField field n
  | name {type n : Node} {package name qualifier : String} : field.child? "type" = some type →
    type.Denotes package name qualifier → name ≠ "" → n ∈ field.childrenAt "name" →
    AskedOfField field n

/-- The texts that tell a top-level node. In a type declaration they are the names of its types and
what tells the fields of its records. In a function or method declaration they are its name, what
tells the calls of its body and, for a method, the name of the receiver's type, perhaps behind a
star. -/
inductive AskedOfDeclaration (decl : Node) : Node → Prop
  | typeName {spec n : Node} : decl.kind = "type_declaration" → spec ∈ decl.parts →
    spec.kind = "type_spec" → spec.child? "name" = some n → AskedOfDeclaration decl n
  | field {spec record field n : Node} : decl.kind = "type_declaration" → spec ∈ decl.parts →
    spec.kind = "type_spec" → spec.child? "type" = some record → record.kind = "struct_type" →
    field ∈ record.fieldDecls → field.AskedOfField n → AskedOfDeclaration decl n
  | name {n : Node} : decl.kind ∈ ["function_declaration", "method_declaration"] →
    decl.child? "name" = some n → AskedOfDeclaration decl n
  | call {body call n : Node} : decl.kind ∈ ["function_declaration", "method_declaration"] →
    decl.child? "body" = some body → call ∈ body.preorder → call.kind = callKind →
    call.AskedOfCall n → AskedOfDeclaration decl n
  | receiver {params param type n : Node} : decl.kind = "method_declaration" →
    decl.child? "receiver" = some params → params.parts.head? = some param →
    param.child? "type" = some type →
    (if type.kind = "pointer_type" then type.parts.head? = some n else n = type) →
    n.kind = "type_identifier" → AskedOfDeclaration decl n

theorem mem_askedByField_iff {field n : Node} : n ∈ field.askedByField ↔ field.AskedOfField n := by
  unfold askedByField fieldType
  simp only [List.mem_append, List.mem_flatMap, Option.mem_toList, mem_askedByType_iff]
  constructor
  · rintro (⟨type, htype, hn⟩ | hn)
    · exact .type htype hn
    · split at hn
      · rename_i hname
        cases htype : field.child? "type" with
        | none =>
          rw [htype] at hname
          cases hname
        | some type =>
          rw [htype] at hname
          rcases type.denotes_or_unresolved "" with hdenotes | hnone
          · exact .name htype hdenotes (by simpa [typeNameOf] using hname) hn
          · simp [typeNameOf, hnone, TypeName.unresolved] at hname
      · cases hn
  · rintro (⟨htype, hn⟩ | ⟨htype, hdenotes, hname, hn⟩)
    · exact .inl ⟨_, htype, hn⟩
    · right
      have hsame := name_typeName _ "" _ ▸ congrArg TypeName.name (typeName_of_denotes hdenotes)
      rw [htype, if_pos]
      · exact hn
      · simpa [typeNameOf, hsame] using hname

theorem mem_askedByReceiver_iff {decl n : Node} :
    n ∈ decl.askedByReceiver ↔ ∃ params param type, decl.child? "receiver" = some params ∧
      params.parts.head? = some param ∧ param.child? "type" = some type ∧
      (if type.kind = "pointer_type" then type.parts.head? = some n else n = type) ∧
      n.kind = "type_identifier" := by
  unfold askedByReceiver pointee?
  simp only [List.mem_filter, Option.mem_toList, Option.bind_eq_some_iff, beq_iff_eq]
  constructor
  · rintro ⟨⟨type, ⟨param, ⟨params, hparams, hparam⟩, htype⟩, hn⟩, hkind⟩
    refine ⟨params, param, type, hparams, hparam, htype, ?_, hkind⟩
    split at hn
    · rwa [if_pos ‹_›]
    · rw [if_neg ‹_›]
      exact (Option.some.inj hn).symm
  · rintro ⟨params, param, type, hparams, hparam, htype, hn, hkind⟩
    refine ⟨⟨type, ⟨param, ⟨params, hparams, hparam⟩, htype⟩, ?_⟩, hkind⟩
    split at hn
    · rwa [if_pos ‹_›]
    · rw [if_neg ‹_›, hn]

theorem mem_askedByBody_iff {decl n : Node} :
    n ∈ askedByBody (decl.child? "body") ↔ ∃ body call, decl.child? "body" = some body ∧
      call ∈ body.preorder ∧ call.kind = callKind ∧ call.AskedOfCall n := by
  unfold askedByBody
  simp only [List.mem_flatMap, List.mem_filter, Option.mem_toList, beq_iff_eq, mem_askedByCall_iff]
  constructor
  · rintro ⟨call, ⟨⟨body, hbody, hcall⟩, hkind⟩, hn⟩
    exact ⟨body, call, hbody, hcall, hkind, hn⟩
  · rintro ⟨body, call, hbody, hcall, hkind, hn⟩
    exact ⟨call, ⟨⟨body, hbody, hcall⟩, hkind⟩, hn⟩

theorem mem_askedBySpec_iff {spec n : Node} :
    n ∈ spec.askedBySpec ↔ spec.child? "name" = some n ∨ ∃ record field,
      spec.child? "type" = some record ∧ record.kind = "struct_type" ∧
        field ∈ record.fieldDecls ∧ field.AskedOfField n := by
  unfold askedBySpec
  simp only [List.mem_append, List.mem_flatMap, List.mem_filter, Option.mem_toList, beq_iff_eq,
    mem_askedByField_iff]
  constructor
  · rintro (hn | ⟨field, ⟨record, ⟨hrecord, hkind⟩, hfield⟩, hn⟩)
    · exact .inl hn
    · exact .inr ⟨record, field, hrecord, hkind, hfield, hn⟩
  · rintro (hn | ⟨record, field, hrecord, hkind, hfield, hn⟩)
    · exact .inl hn
    · exact .inr ⟨field, ⟨record, ⟨hrecord, hkind⟩, hfield⟩, hn⟩

theorem mem_askedByDeclaration_iff {decl n : Node} :
    n ∈ decl.askedByDeclaration ↔ decl.AskedOfDeclaration n := by
  constructor
  · intro h
    unfold askedByDeclaration at h
    split at h
    · rename_i hkind
      have hkind : decl.kind = "type_declaration" := by simpa using hkind
      obtain ⟨spec, hspec, hn⟩ := List.mem_flatMap.mp h
      obtain ⟨hpart, hspec⟩ := List.mem_filter.mp hspec
      have hspec : spec.kind = "type_spec" := by simpa using hspec
      rcases mem_askedBySpec_iff.mp hn with hn | ⟨record, field, hrecord, hstruct, hfield, hn⟩
      · exact .typeName hkind hpart hspec hn
      · exact .field hkind hpart hspec hrecord hstruct hfield hn
    · split at h
      · rename_i hkind
        have hkind : decl.kind = "function_declaration" := by simpa using hkind
        rcases List.mem_append.mp h with hn | hn
        · exact .name (by simp [hkind]) (Option.mem_toList.mp hn)
        · obtain ⟨body, call, hbody, hcall, hcallKind, hn⟩ := mem_askedByBody_iff.mp hn
          exact .call (by simp [hkind]) hbody hcall hcallKind hn
      · split at h
        · rename_i hkind
          have hkind : decl.kind = "method_declaration" := by simpa using hkind
          rcases List.mem_append.mp h with hn | hn
          · rcases List.mem_append.mp hn with hn | hn
            · exact .name (by simp [hkind]) (Option.mem_toList.mp hn)
            · obtain ⟨params, param, type, hparams, hparam, htype, hend, hname⟩ :=
                mem_askedByReceiver_iff.mp hn
              exact .receiver hkind hparams hparam htype hend hname
          · obtain ⟨body, call, hbody, hcall, hcallKind, hn⟩ := mem_askedByBody_iff.mp hn
            exact .call (by simp [hkind]) hbody hcall hcallKind hn
        · cases h
  · intro h
    unfold askedByDeclaration
    cases h with
    | typeName hkind hpart hspec hn =>
      simp only [hkind, beq_self_eq_true, if_true, List.mem_flatMap, List.mem_filter, beq_iff_eq]
      exact ⟨_, ⟨hpart, hspec⟩, mem_askedBySpec_iff.mpr (.inl hn)⟩
    | field hkind hpart hspec hrecord hstruct hfield hn =>
      simp only [hkind, beq_self_eq_true, if_true, List.mem_flatMap, List.mem_filter, beq_iff_eq]
      exact ⟨_, ⟨hpart, hspec⟩,
        mem_askedBySpec_iff.mpr (.inr ⟨_, _, hrecord, hstruct, hfield, hn⟩)⟩
    | name hkind hn =>
      simp only [List.mem_cons, List.not_mem_nil, or_false] at hkind
      rcases hkind with hkind | hkind <;> simp [hkind, hn]
    | call hkind hbody hcall hcallKind hn =>
      have hmem := mem_askedByBody_iff.mpr ⟨_, _, hbody, hcall, hcallKind, hn⟩
      simp only [List.mem_cons, List.not_mem_nil, or_false] at hkind
      rcases hkind with hkind | hkind <;> simp [hkind, hmem]
    | receiver hkind hparams hparam htype hend hname =>
      have hmem := mem_askedByReceiver_iff.mpr ⟨_, _, _, hparams, hparam, htype, hend, hname⟩
      simp [hkind, hmem]

/-! ## Files -/

/-- The texts that are asked for when a file is entered: the name in its first package clause that
has one, the paths of its imports, single and in groups, and what tells its declarations. -/
inductive Asked (file : Node) : Node → Prop
  | package {n : Node} :
    ((file.parts.filter (·.kind == "package_clause")).flatMap parts).head? = some n → Asked file n
  | path {decl part spec n : Node} : decl ∈ file.parts → decl.kind = "import_declaration" →
    part ∈ decl.parts → spec = part ∨ part.kind = "import_spec_list" ∧ spec ∈ part.parts →
    spec.kind = "import_spec" → spec.child? "path" = some n → Asked file n
  | declaration {decl n : Node} : decl ∈ file.parts → decl.AskedOfDeclaration n → Asked file n

theorem mem_importSpecs_iff {decl spec : Node} :
    spec ∈ decl.importSpecs ↔ ∃ part ∈ decl.parts,
      (spec = part ∨ part.kind = "import_spec_list" ∧ spec ∈ part.parts) ∧
        spec.kind = "import_spec" := by
  unfold importSpecs
  simp only [List.mem_filter, List.mem_flatMap, beq_iff_eq]
  constructor
  · rintro ⟨⟨part, hpart, hspec⟩, hkind⟩
    refine ⟨part, hpart, ?_, hkind⟩
    split at hspec
    · exact .inr ⟨‹_›, hspec⟩
    · exact .inl (List.mem_singleton.mp hspec)
  · rintro ⟨part, hpart, hspec, hkind⟩
    refine ⟨⟨part, hpart, ?_⟩, hkind⟩
    rcases hspec with rfl | ⟨hgroup, hspec⟩
    · simp [hkind]
    · rwa [if_pos hgroup]

theorem mem_asked_iff {file n : Node} : n ∈ file.asked ↔ file.Asked n := by
  unfold asked
  simp only [List.mem_append, List.mem_flatMap, List.mem_filter, Option.mem_toList, beq_iff_eq,
    mem_askedByDeclaration_iff, mem_importSpecs_iff]
  constructor
  · rintro ((hn | ⟨spec, ⟨decl, ⟨hdecl, hkind⟩, part, hpart, hspec, hspecKind⟩, hn⟩) |
      ⟨decl, hdecl, hn⟩)
    · exact .package hn
    · exact .path hdecl hkind hpart hspec hspecKind hn
    · exact .declaration hdecl hn
  · intro h
    cases h with
    | package hn => exact .inl (.inl hn)
    | path hdecl hkind hpart hspec hspecKind hn =>
      exact .inl (.inr ⟨_, ⟨_, ⟨hdecl, hkind⟩, _, hpart, hspec, hspecKind⟩, hn⟩)
    | declaration hdecl hn => exact .inr ⟨_, hdecl, hn⟩

/-- Somewhere in the file text is asked for, and the bytes there are none. -/
def Garbled (file : Node) : Prop := ∃ n, file.Asked n ∧ n.label.garbled = true

/-- Bytes that are no text keep a file out exactly where they are asked for. -/
theorem isReadable_eq_false_iff {file : Node} : file.isReadable = false ↔ file.Garbled := by
  unfold isReadable Garbled
  simp [List.all_eq_false, mem_asked_iff]

instance (file : Node) : Decidable file.Garbled :=
  decidable_of_iff (file.isReadable = false) isReadable_eq_false_iff

end SourceAtlas.Node
