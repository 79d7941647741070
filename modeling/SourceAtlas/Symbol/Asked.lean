-- The texts that are asked for when a file is entered. A source may have bytes that are no text
-- anywhere in its literals and comments; they matter only where somebody asks for the text.
import SourceAtlas.Symbol.Declaration

namespace SourceAtlas

namespace Node

/-- The nodes whose texts a call is told from. -/
def askedByCall (call : Node) : List Node :=
  match call.child? "function" with
  | none => []
  | some callee =>
    if callee.kind == "identifier" then [callee]
    else if callee.kind == "selector_expression" then
      match callee.child? "operand" with
      | some operand =>
        if operand.kind == "identifier" then (callee.child? "field").toList ++ [operand] else []
      | none => []
    else []

/-- The nodes whose texts the calls of a body are told from. -/
def askedByBody (body : Option Node) : List Node :=
  ((body.toList.flatMap preorder).filter (·.kind == callKind)).flatMap askedByCall

/-- The nodes whose texts a type expression is told from. -/
def askedByType (type : Node) : List Node :=
  match _h : type.unwrap? with
  | some inner => inner.askedByType
  | none =>
    match type.kind with
    | "type_identifier" => [type]
    | "qualified_type" => (type.child? "name").toList ++ (type.child? "package").toList
    | _ => []
termination_by type.count
decreasing_by exact count_lt_of_mem (unwrap?_mem _h)

/-- The node whose text the receiver of a method is told from. -/
def askedByReceiver (decl : Node) : List Node :=
  let param := (decl.child? "receiver").bind (·.parts.head?)
  let type := param.bind (·.child? "type")
  (type.bind fun t => if t.kind == "pointer_type" then t.pointee? else some t).toList.filter
    (·.kind == "type_identifier")

/-- The nodes whose texts a field declaration is told from. Its names are asked for when its type
has a name, whatever the package. -/
def askedByField (field : Node) : List Node :=
  (field.child? "type").toList.flatMap askedByType
    ++ if (field.fieldType "").name != "" then field.childrenAt "name" else []

/-- The nodes whose texts a type specification is told from. -/
def askedBySpec (spec : Node) : List Node :=
  let records := (spec.child? "type").toList.filter (·.kind == "struct_type")
  (spec.child? "name").toList ++ (records.flatMap fieldDecls).flatMap askedByField

/-- The nodes whose texts a top-level node is told from. -/
def askedByDeclaration (decl : Node) : List Node :=
  if decl.kind == "type_declaration" then
    (decl.parts.filter (·.kind == "type_spec")).flatMap askedBySpec
  else if decl.kind == "function_declaration" then
    (decl.child? "name").toList ++ askedByBody (decl.child? "body")
  else if decl.kind == "method_declaration" then
    (decl.child? "name").toList ++ decl.askedByReceiver ++ askedByBody (decl.child? "body")
  else []

/-- The nodes whose texts are asked for when a file is entered. -/
def asked (file : Node) : List Node :=
  let clause := ((file.parts.filter (·.kind == "package_clause")).flatMap parts).head?
  let specs := (file.parts.filter (·.kind == "import_declaration")).flatMap importSpecs
  clause.toList ++ specs.flatMap (fun spec => (spec.child? "path").toList)
    ++ file.parts.flatMap askedByDeclaration

/-- All that is asked for is text. -/
def isReadable (file : Node) : Bool := file.asked.all fun n => !n.label.garbled

end Node

end SourceAtlas
