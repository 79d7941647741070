-- What a file declares, in source order, and how it fills the tables of symbols.
import SourceAtlas.Path
import SourceAtlas.Symbol.Import
import SourceAtlas.Symbol.Tables
import SourceAtlas.Tree.TypeName

namespace SourceAtlas

/-- One entry of a file's stream of declarations. -/
inductive Declaration where
  | type (decl : TypeDecl)
  /-- A type that is neither a record nor an interface. It leaves no symbol. -/
  | plainType (package name : String)
  | function (decl : FunctionDecl)
  | method (decl : MethodDecl)
  deriving DecidableEq, Repr, Inhabited

namespace Node

/-- The name in the first package clause that has one. -/
def packageName (file : Node) : String :=
  textOf ((file.parts.filter (·.kind == "package_clause")).flatMap parts).head?

/-- The field declarations of a record type. -/
def fieldDecls (record : Node) : List Node :=
  ((record.parts.filter (·.kind == "field_declaration_list")).flatMap parts).filter
    (·.kind == "field_declaration")

/-- The type that a field declaration comes down to in `package`. -/
def fieldType (package : String) (field : Node) : TypeName :=
  typeNameOf package (field.child? "type")

/-- The type names that a record embeds: the field declarations without a name whose
type has one. -/
def embeds (package : String) (record : Node) : List String :=
  record.fieldDecls.filterMap fun field =>
    let type := field.fieldType package
    if type.name != "" && (field.childrenAt "name").isEmpty then some type.name else none

/-- The named fields of a record whose type has a name, one entry for each field name. -/
def fieldRefs (package : String) (record : Node) : List FieldRef :=
  record.fieldDecls.flatMap fun field =>
    let type := field.fieldType package
    if type.name != "" then
      (field.childrenAt "name").map fun name => ⟨name.text, type.name, type.package⟩
    else []

/-- What one type specification declares. -/
def typeSpec (package file : String) (spec : Node) : Declaration :=
  let name := textOf (spec.child? "name")
  match spec.child? "type" with
  | none => .plainType package name
  | some type =>
    if type.kind == "struct_type" then
      .type
        { name, package, kind := .record, file, line := spec.line
          fields := type.fieldRefs package, embeds := type.embeds package }
    else if type.kind == "interface_type" then
      .type { name, package, kind := .interface, file, line := spec.line }
    else .plainType package name

/-- The receiver that a method declaration names. -/
def receiver (decl : Node) : String :=
  match decl.child? "receiver" with
  | none => ""
  | some params =>
    match params.parts with
    | [] => ""
    | param :: _ => receiverName (param.child? "type")

/-- The function part of a function or method declaration. -/
def functionDecl (package file : String) (decl : Node) : FunctionDecl :=
  { name := textOf (decl.child? "name")
    package, file
    line := decl.line
    calls := calls (decl.child? "body") }

/-- What one top-level node declares. -/
def declarations (package file : String) (decl : Node) : List Declaration :=
  if decl.kind == "type_declaration" then
    (decl.parts.filter (·.kind == "type_spec")).map (typeSpec package file)
  else if decl.kind == "function_declaration" then
    [.function (functionDecl package file decl)]
  else if decl.kind == "method_declaration" then
    [.method { functionDecl package file decl with receiver := receiver decl }]
  else []

/-- The stream of declarations of a file. -/
def allDeclarations (package file : String) (root : Node) : List Declaration :=
  root.parts.flatMap (declarations package file)

end Node

/-- A source file that has been read: where it is and what it says. -/
structure SourceFile where
  path : String
  tree : Node
  deriving Inhabited

namespace Symbols

/-- Enters one declaration. A later declaration of the same key takes the place of the
earlier one. -/
def declare (s : Symbols) : Declaration → Symbols
  | .type t => s.addType t
  | .plainType _ _ => s
  | .function f => s.addFunction f
  | .method m => s.addMethod m

/-- The package that a file belongs to, when relative paths start at `here`. -/
def packageOf (s : Symbols) (here : String) (path : String) : String :=
  s.packagePath
    (Path.relative (Path.absolute here (Path.directory path)) (Path.absolute here s.base))

/-- Enters a file: its package, its imports and its declarations. -/
def addFile (s : Symbols) (here : String) (file : SourceFile) : Symbols :=
  let package := s.packageOf here file.path
  let entered :=
    (s.ensurePackage package file.tree.packageName (Path.directory file.path)).addImports
      package file.tree.foreignImports
  (file.tree.allDeclarations package file.path).foldl declare entered

end Symbols

end SourceAtlas
