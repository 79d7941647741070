-- Symbols given as plain values.
import SourceAtlas.Format.Value
import SourceAtlas.Symbol.Tables

namespace SourceAtlas

def CallSite.check : Check CallSite :=
  Check.record "CallSite" fun fields =>
    CallSite.mk <$> Check.required fields "target" Check.string
      <*> Check.optional fields "is_selector" false Check.bool
      <*> Check.optional fields "receiver" "" Check.string
      <*> Check.required fields "line" Check.int

def FieldRef.check : Check FieldRef :=
  Check.record "FieldInfo" fun fields =>
    FieldRef.mk <$> Check.required fields "name" Check.string
      <*> Check.required fields "type_name" Check.string
      <*> Check.required fields "type_package" Check.string

def TypeDecl.check : Check TypeDecl :=
  Check.record "TypeDeclaration" fun fields =>
    TypeDecl.mk <$> Check.required fields "name" Check.string
      <*> Check.required fields "package" Check.string
      <*> Check.required fields "kind" (Check.choice TypeKind.word [.record, .interface])
      <*> Check.required fields "file" Check.string
      <*> Check.required fields "line" Check.int
      <*> Check.optional fields "fields" [] (Check.list FieldRef.check)
      <*> Check.optional fields "embeds" [] (Check.list Check.string)

def FunctionDecl.check : Check FunctionDecl :=
  Check.record "Function" fun fields =>
    FunctionDecl.mk <$> Check.required fields "name" Check.string
      <*> Check.required fields "package" Check.string
      <*> Check.required fields "file" Check.string
      <*> Check.required fields "line" Check.int
      <*> Check.optional fields "calls" [] (Check.list CallSite.check)

/-- The receiver of a method is looked at right after its name. -/
def MethodDecl.check : Check MethodDecl :=
  Check.record "Method" fun fields =>
    (fun name receiver package file line calls =>
        MethodDecl.mk { name, package, file, line, calls } receiver)
      <$> Check.required fields "name" Check.string
      <*> Check.required fields "receiver" Check.string
      <*> Check.required fields "package" Check.string
      <*> Check.required fields "file" Check.string
      <*> Check.required fields "line" Check.int
      <*> Check.optional fields "calls" [] (Check.list CallSite.check)

end SourceAtlas
