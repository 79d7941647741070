-- Comments are never read. A tree without its comments names the same package, imports the
-- same paths and declares the same symbols with the same calls, so it fills the tables in the
-- same way.
import SourceAtlas.Analysis.Run
import SourceAtlas.Proofs.AskedTexts
import SourceAtlas.Proofs.CallWalk
import SourceAtlas.Proofs.Gathering

namespace SourceAtlas

/-! ## Trees without comments -/

namespace Node

/-- A comment that stands by itself: it has no role in its parent, and nothing is below it. -/
def isLooseComment (n : Node) : Bool :=
  n.kind == commentKind && n.label.field.isNone && n.children.isEmpty

mutual
/-- The tree without the loose comments below the node. -/
def bare : Node → Node
  | mk l cs => mk l (bareAll cs)
termination_by structural n => n

/-- The trees of the list that are no loose comments, without the loose comments in them. -/
def bareAll : List Node → List Node
  | [] => []
  | c :: cs => if c.isLooseComment then bareAll cs else c.bare :: bareAll cs
termination_by structural ns => ns
end

theorem bareAll_eq (cs : List Node) : bareAll cs = (cs.filter (!·.isLooseComment)).map bare := by
  induction cs with
  | nil => rfl
  | cons c cs ih =>
    rw [bareAll, ih]
    by_cases h : c.isLooseComment = true
    · simp [h]
    · simp [h]

@[simp]
theorem label_bare (n : Node) : n.bare.label = n.label := by
  cases n
  rfl

@[simp]
theorem kind_bare (n : Node) : n.bare.kind = n.kind := by
  simp [kind]

@[simp]
theorem text_bare (n : Node) : n.bare.text = n.text := by
  simp [text]

@[simp]
theorem line_bare (n : Node) : n.bare.line = n.line := by
  simp [line, start]

@[simp]
theorem textOf_bare (n : Option Node) : textOf (n.map bare) = textOf n := by
  cases n with
  | none => rfl
  | some n => exact n.text_bare

theorem children_bare (n : Node) :
    n.bare.children = (n.children.filter (!·.isLooseComment)).map bare := by
  cases n
  exact bareAll_eq _

/-! ## Choosing among children -/

/-- A choice that goes by the labels and never falls on a loose comment finds the same
children. -/
theorem filter_children_bare {p : Node → Bool} (hlabel : ∀ c : Node, p c.bare = p c)
    (hcomment : ∀ c : Node, c.isLooseComment = true → p c = false) (n : Node) :
    n.bare.children.filter p = (n.children.filter p).map bare := by
  rw [children_bare, List.filter_map, List.filter_filter]
  congr 1
  refine List.filter_congr fun c _ => ?_
  by_cases h : c.isLooseComment = true
  · simp [h, hlabel, hcomment c h]
  · simp [h, hlabel]

@[simp]
theorem parts_bare (n : Node) : n.bare.parts = n.parts.map bare := by
  unfold parts
  apply filter_children_bare
  · intro c
    simp
  · intro c hc
    simp only [isLooseComment, Bool.and_eq_true, beq_iff_eq] at hc
    simp [hc.1.1]

@[simp]
theorem childrenAt_bare (n : Node) (field : String) :
    n.bare.childrenAt field = (n.childrenAt field).map bare := by
  unfold childrenAt
  apply filter_children_bare
  · intro c
    simp
  · intro c hc
    simp only [isLooseComment, Bool.and_eq_true, Option.isNone_iff_eq_none] at hc
    simp [hc.1.2]

@[simp]
theorem child?_bare (n : Node) (field : String) :
    n.bare.child? field = (n.child? field).map bare := by
  have hhead : ∀ m : Node, m.child? field = (m.childrenAt field).head? := by
    intro m
    exact List.head?_filter.symm
  rw [hhead, hhead, childrenAt_bare, List.head?_map]

/-- The nodes of one kind among several trees. -/
theorem filter_kind_bare (ns : List Node) (kind : String) :
    (ns.map bare).filter (·.kind == kind) = (ns.filter (·.kind == kind)).map bare := by
  rw [List.filter_map]
  congr 1
  refine List.filter_congr fun c _ => ?_
  simp

/-- What is found node by node is found among several trees. -/
theorem flatMap_bare {g : Node → List Node} (hg : ∀ n : Node, g n.bare = (g n).map bare)
    (ns : List Node) : (ns.map bare).flatMap g = (ns.flatMap g).map bare := by
  rw [List.flatMap_map, List.map_flatMap]
  exact List.flatMap_congr fun n _ => hg n

/-! ## Type expressions -/

theorem unwrap?_bare (n : Node) : n.bare.unwrap? = n.unwrap?.map bare := by
  unfold unwrap? pointee?
  rw [kind_bare, parts_bare, child?_bare, child?_bare, List.head?_map]
  split <;> rfl

/-- What a type expression comes down to, it comes down to without its comments. -/
@[simp]
theorem typeName_bare (package : String) (n : Node) :
    n.bare.typeName package = n.typeName package := by
  fun_induction typeName package n with
  | case1 n inner hstep ih =>
    have hbare : n.bare.unwrap? = some inner.bare := by rw [unwrap?_bare, hstep]; rfl
    rw [typeName_of_unwraps (unwrap?_eq_some_iff.mp hbare), ih]
  | case2 n hstop hkind =>
    rw [typeName_of_leaf (by rw [unwrap?_bare, hstop]; rfl)]
    simp [hkind]
  | case3 n hstop hkind =>
    rw [typeName_of_leaf (by rw [unwrap?_bare, hstop]; rfl)]
    simp [hkind]
  | case4 n hstop hplain hqualified =>
    rw [typeName_of_leaf (by rw [unwrap?_bare, hstop]; rfl), kind_bare]
    split
    · exact absurd ‹_› hplain
    · exact absurd ‹_› hqualified
    · rfl

@[simp]
theorem typeNameOf_bare (package : String) (n : Option Node) :
    typeNameOf package (n.map bare) = typeNameOf package n := by
  cases n with
  | none => rfl
  | some n => exact n.typeName_bare package

@[simp]
theorem receiverName_bare (n : Option Node) : receiverName (n.map bare) = receiverName n := by
  cases n with
  | none => rfl
  | some n =>
    simp only [Option.map_some, receiverName, kind_bare, pointee?, parts_bare, List.head?_map,
      plainTypeName, text_bare]
    cases n.parts.head? with
    | none => rfl
    | some inner => simp

/-! ## Calls -/

theorem callSite?_bare (n : Node) : n.bare.callSite? = n.callSite? := by
  unfold callSite?
  rw [child?_bare, line_bare]
  cases n.child? "function" with
  | none => rfl
  | some callee =>
    simp only [Option.map_some, kind_bare, text_bare, child?_bare, textOf_bare]
    cases callee.child? "operand" with
    | none => rfl
    | some operand => simp

/-- A loose comment is no call, and no call is below it. -/
theorem callNodes_of_looseComment {n : Node} (h : n.isLooseComment = true) :
    n.preorder.filter (·.kind == callKind) = [] := by
  simp only [isLooseComment, Bool.and_eq_true, beq_iff_eq, List.isEmpty_iff] at h
  obtain ⟨⟨hkind, _⟩, hchildren⟩ := h
  have hown : ¬(n.kind == callKind) = true := by
    rw [hkind]
    decide
  rw [preorder_eq, hchildren, List.filter_cons, if_neg hown]
  rfl

mutual
theorem callNodes_bare (n : Node) :
    n.bare.preorder.filter (·.kind == callKind) =
      (n.preorder.filter (·.kind == callKind)).map bare := by
  cases n with
  | mk l cs =>
    rw [bare, preorder, preorder, List.filter_cons, List.filter_cons, callNodes_bareAll cs]
    change (if l.kind == callKind then _ else _) =
      List.map bare (if l.kind == callKind then _ else _)
    split <;> rfl

theorem callNodes_bareAll (cs : List Node) :
    (preorderAll (bareAll cs)).filter (·.kind == callKind) =
      ((preorderAll cs).filter (·.kind == callKind)).map bare := by
  cases cs with
  | nil => rfl
  | cons c cs =>
    rw [bareAll, preorderAll, List.filter_append]
    split
    · rename_i hcomment
      rw [callNodes_of_looseComment hcomment, callNodes_bareAll cs]
      rfl
    · rw [preorderAll, List.filter_append, callNodes_bare c, callNodes_bareAll cs, List.map_append]
end

@[simp]
theorem calls_bare (body : Option Node) : calls (body.map bare) = calls body := by
  have hsites : ∀ n : Node, n.preorder.filterMap ownCall? =
      (n.preorder.filter (·.kind == callKind)).filterMap callSite? := by
    intro n
    rw [List.filterMap_filter]
    rfl
  rw [calls_eq, calls_eq]
  cases body with
  | none => rfl
  | some body =>
    change body.bare.preorder.filterMap ownCall? = body.preorder.filterMap ownCall?
    rw [hsites, hsites, callNodes_bare, List.filterMap_map]
    exact List.filterMap_congr fun call _ => call.callSite?_bare

/-! ## Declarations -/

theorem packageName_bare (file : Node) : file.bare.packageName = file.packageName := by
  unfold packageName
  rw [parts_bare, filter_kind_bare, flatMap_bare parts_bare, List.head?_map, textOf_bare]

theorem importSpecs_bare (decl : Node) : decl.bare.importSpecs = decl.importSpecs.map bare := by
  have hgroup : ∀ spec : Node,
      (if spec.bare.kind == "import_spec_list" then spec.bare.parts else [spec.bare]) =
        (if spec.kind == "import_spec_list" then spec.parts else [spec]).map bare := by
    intro spec
    rw [kind_bare, parts_bare]
    split <;> rfl
  unfold importSpecs
  rw [parts_bare, List.flatMap_map, ← filter_kind_bare, List.map_flatMap]
  simp only [hgroup]

theorem importPaths_bare (file : Node) : file.bare.importPaths = file.importPaths := by
  unfold importPaths
  rw [parts_bare, filter_kind_bare, List.flatMap_map]
  refine List.flatMap_congr fun decl _ => ?_
  rw [importSpecs_bare, List.map_map]
  refine List.map_congr_left fun spec _ => ?_
  simp [importPath]

theorem foreignImports_bare (file : Node) : file.bare.foreignImports = file.foreignImports := by
  unfold foreignImports
  rw [importPaths_bare]

theorem fieldDecls_bare (record : Node) : record.bare.fieldDecls = record.fieldDecls.map bare := by
  unfold fieldDecls
  rw [parts_bare, filter_kind_bare, flatMap_bare parts_bare, filter_kind_bare]

theorem fieldType_bare (package : String) (field : Node) :
    field.bare.fieldType package = field.fieldType package := by
  simp [fieldType]

@[simp]
theorem embeds_bare (package : String) (record : Node) :
    record.bare.embeds package = record.embeds package := by
  unfold embeds
  rw [fieldDecls_bare, List.filterMap_map]
  refine List.filterMap_congr fun field _ => ?_
  simp [fieldType_bare]

@[simp]
theorem fieldRefs_bare (package : String) (record : Node) :
    record.bare.fieldRefs package = record.fieldRefs package := by
  unfold fieldRefs
  rw [fieldDecls_bare, List.flatMap_map]
  refine List.flatMap_congr fun field _ => ?_
  simp [fieldType_bare, Function.comp_def]

theorem typeSpec_bare (package file : String) (spec : Node) :
    typeSpec package file spec.bare = typeSpec package file spec := by
  unfold typeSpec
  rw [child?_bare, child?_bare, textOf_bare]
  cases spec.child? "type" with
  | none => rfl
  | some type => simp

theorem receiver_bare (decl : Node) : decl.bare.receiver = decl.receiver := by
  unfold receiver
  rw [child?_bare]
  cases decl.child? "receiver" with
  | none => rfl
  | some params =>
    simp only [Option.map_some, parts_bare]
    cases params.parts with
    | nil => rfl
    | cons param rest => simp

theorem functionDecl_bare (package file : String) (decl : Node) :
    functionDecl package file decl.bare = functionDecl package file decl := by
  simp [functionDecl]

theorem declarations_bare (package file : String) (decl : Node) :
    declarations package file decl.bare = declarations package file decl := by
  have hspecs : (decl.bare.parts.filter (·.kind == "type_spec")).map (typeSpec package file) =
      (decl.parts.filter (·.kind == "type_spec")).map (typeSpec package file) := by
    rw [parts_bare, filter_kind_bare, List.map_map]
    exact List.map_congr_left fun spec _ => typeSpec_bare package file spec
  unfold declarations
  rw [kind_bare, hspecs, functionDecl_bare, receiver_bare]

/-- The stream of declarations of a file is that of the file without its comments. -/
theorem allDeclarations_bare (package file : String) (root : Node) :
    root.bare.allDeclarations package file = root.allDeclarations package file := by
  unfold allDeclarations
  rw [parts_bare, List.flatMap_map]
  exact List.flatMap_congr fun decl _ => declarations_bare package file decl

/-! ## The texts that are asked for -/

theorem askedByCall_bare (call : Node) : call.bare.askedByCall = call.askedByCall.map bare := by
  unfold askedByCall
  rw [child?_bare]
  cases call.child? "function" with
  | none => rfl
  | some callee =>
    simp only [Option.map_some, kind_bare, child?_bare]
    cases callee.child? "operand" with
    | none => split <;> simp
    | some operand =>
      simp only [Option.map_some, kind_bare]
      split
      · rfl
      · split
        · split
          · simp [Option.toList_map]
          · rfl
        · rfl

theorem askedByBody_bare (body : Option Node) :
    askedByBody (body.map bare) = (askedByBody body).map bare := by
  unfold askedByBody
  cases body with
  | none => rfl
  | some body =>
    rw [Option.map_some, Option.toList_some, Option.toList_some, List.flatMap_singleton,
      List.flatMap_singleton, callNodes_bare, flatMap_bare askedByCall_bare]

theorem askedByType_bare (type : Node) : type.bare.askedByType = type.askedByType.map bare := by
  fun_induction askedByType type with
  | case1 type inner hstep ih =>
    have hbare : type.bare.unwrap? = some inner.bare := by rw [unwrap?_bare, hstep]; rfl
    rw [askedByType_of_unwraps (unwrap?_eq_some_iff.mp hbare), ih]
  | case2 type hstop hkind =>
    rw [askedByType_of_leaf (by rw [unwrap?_bare, hstop]; rfl)]
    simp [hkind]
  | case3 type hstop hkind =>
    rw [askedByType_of_leaf (by rw [unwrap?_bare, hstop]; rfl)]
    simp [hkind, Option.toList_map]
  | case4 type hstop hplain hqualified =>
    rw [askedByType_of_leaf (by rw [unwrap?_bare, hstop]; rfl), kind_bare]
    split
    · exact absurd ‹_› hplain
    · exact absurd ‹_› hqualified
    · rfl

theorem askedByReceiver_bare (decl : Node) :
    decl.bare.askedByReceiver = decl.askedByReceiver.map bare := by
  have htype : ∀ type : Option Node,
      ((type.map bare).bind fun t => if t.kind == "pointer_type" then t.pointee? else some t) =
        (type.bind fun t => if t.kind == "pointer_type" then t.pointee? else some t).map bare := by
    intro type
    cases type with
    | none => rfl
    | some type =>
      simp only [Option.map_some, Option.bind_some, kind_bare, pointee?, parts_bare, List.head?_map]
      split <;> rfl
  unfold askedByReceiver
  rw [← filter_kind_bare, ← Option.toList_map, ← htype, child?_bare]
  cases decl.child? "receiver" with
  | none => rfl
  | some params =>
    simp only [Option.map_some, Option.bind_some, parts_bare, List.head?_map]
    cases params.parts.head? with
    | none => rfl
    | some param => simp only [Option.map_some, Option.bind_some, child?_bare]

theorem askedByField_bare (field : Node) :
    field.bare.askedByField = field.askedByField.map bare := by
  unfold askedByField
  rw [fieldType_bare, child?_bare, childrenAt_bare, Option.toList_map,
    flatMap_bare askedByType_bare, List.map_append]
  split <;> rfl

theorem askedBySpec_bare (spec : Node) : spec.bare.askedBySpec = spec.askedBySpec.map bare := by
  unfold askedBySpec
  simp only [child?_bare, Option.toList_map, filter_kind_bare, flatMap_bare fieldDecls_bare,
    flatMap_bare askedByField_bare, List.map_append]

theorem askedByDeclaration_bare (decl : Node) :
    decl.bare.askedByDeclaration = decl.askedByDeclaration.map bare := by
  unfold askedByDeclaration
  simp only [kind_bare, parts_bare, filter_kind_bare, flatMap_bare askedBySpec_bare,
    child?_bare, Option.toList_map, askedByBody_bare, askedByReceiver_bare]
  split
  · rfl
  · split
    · rw [List.map_append]
    · split
      · rw [List.map_append, List.map_append]
      · rfl

/-- Without its comments a file is asked for the same texts. -/
theorem asked_bare (file : Node) : file.bare.asked = file.asked.map bare := by
  have hpaths := flatMap_bare (g := fun spec => (spec.child? "path").toList) fun spec => by
    rw [child?_bare, Option.toList_map]
  unfold asked
  simp only [parts_bare, filter_kind_bare, flatMap_bare parts_bare, List.head?_map,
    Option.toList_map, flatMap_bare importSpecs_bare, hpaths,
    flatMap_bare askedByDeclaration_bare, List.map_append]

theorem isReadable_bare (file : Node) : file.bare.isReadable = file.isReadable := by
  unfold isReadable
  rw [asked_bare, List.all_map]
  simp only [Function.comp_def, label_bare]

end Node

/-! ## The law -/

namespace Symbols

theorem addFile_bare (s : Symbols) (here path : String) (tree : Node) :
    s.addFile here ⟨path, tree.bare⟩ = s.addFile here ⟨path, tree⟩ := by
  unfold addFile
  simp only [Node.packageName_bare, Node.foreignImports_bare, Node.allDeclarations_bare]

theorem take_bare (s : Symbols) (f : Files) (path : String) (tree : Node) :
    s.take f ⟨path, tree.bare⟩ = s.take f ⟨path, tree⟩ := by
  unfold take skippedTypes
  simp only [addFile_bare, Node.allDeclarations_bare, Node.isReadable_bare]

/-- Two files that differ in nothing but loose comments, wherever these stand, are entered in
the same way: into any tables, with the same tables and the same graph after it, with the same
log, and with the same failure where the way to the file is not known. So among any other
files one may stand for the other. -/
theorem comments_leave_no_trace {tree tree' : Node} (h : tree.bare = tree'.bare) (s : Symbols)
    (here path : String) :
    s.addFile here ⟨path, tree⟩ = s.addFile here ⟨path, tree'⟩ ∧
      (s.addFile here ⟨path, tree⟩).graph = (s.addFile here ⟨path, tree'⟩).graph ∧
      (∀ f : Files, s.take f ⟨path, tree⟩ = s.take f ⟨path, tree'⟩) ∧
      ∀ (o : Origin) (before after : List SourceFile),
        o.gather (before ++ ⟨path, tree⟩ :: after) =
          o.gather (before ++ ⟨path, tree'⟩ :: after) := by
  have hfile : ∀ (s : Symbols) (here : String),
      s.addFile here ⟨path, tree⟩ = s.addFile here ⟨path, tree'⟩ := by
    intro s here
    rw [← addFile_bare, h, addFile_bare]
  refine ⟨hfile s here, congrArg graph (hfile s here), ?_, ?_⟩
  · intro f
    rw [← take_bare, h, take_bare]
  · intro o before after
    unfold Origin.gather
    rw [List.foldl_append, List.foldl_append, List.foldl_cons, List.foldl_cons, hfile]

/-- A file with one method, `func (*T) M() { f() }`, and the given nodes in the file, in the
list of receivers, behind the star, in the body and between the brackets of the call. -/
def methodFile (notes : List Node) : Node :=
  let type := Node.mk { kind := "type_identifier", text := some "T" } []
  let pointer := Node.mk { kind := "pointer_type", field := some "type" } (notes ++ [type])
  let receiver := Node.mk { kind := "parameter_declaration" } [pointer]
  let receivers := Node.mk { kind := "parameter_list", field := some "receiver" }
    (notes ++ [receiver])
  let name := Node.mk { kind := "field_identifier", field := some "name", text := some "M" } []
  let callee := Node.mk { kind := "identifier", field := some "function", text := some "f" } []
  let arguments := Node.mk { kind := "argument_list", field := some "arguments" } notes
  let call := Node.mk { kind := "call_expression" } [callee, arguments]
  let body := Node.mk { kind := "block", field := some "body" } (notes ++ [call])
  Node.mk { kind := "source_file" }
    (notes ++ [Node.mk { kind := "method_declaration" } [receivers, name, body]])

/-- Five comments at the places where a reader by position would trip over them. -/
theorem a_method_is_the_same_between_comments :
    let note := Node.mk { kind := "comment", text := some "/* T */" } []
    (methodFile [note]).count = (methodFile []).count + 5 ∧
      (methodFile [note]).bare = (methodFile []).bare ∧
      Symbols.addFile { base := "/" } "/" ⟨"/a.go", methodFile [note]⟩ =
        Symbols.addFile { base := "/" } "/" ⟨"/a.go", methodFile []⟩ := by
  intro note
  have hbare : (methodFile [note]).bare = (methodFile []).bare := rfl
  exact ⟨rfl, hbare, (comments_leave_no_trace hbare _ _ _).1⟩

end Symbols

end SourceAtlas
