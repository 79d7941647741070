-- The symbols of one module: packages, types, functions and methods, each kind in
-- a table of its own. A symbol has an identity, and a dotted text stands for it in a graph.
import SourceAtlas.Table
import SourceAtlas.Tree.Call

namespace SourceAtlas

/-- The identity of a package, type, function or method. Keys of different kinds are
never equal, even when their texts are. -/
inductive Key where
  | package (path : String)
  | type (package name : String)
  | function (package name : String)
  | method (package receiver name : String)
  deriving DecidableEq, Repr, Inhabited

namespace Key

/-- The package that a symbol belongs to. -/
def packagePath : Key → String
  | package p => p
  | type p _ => p
  | function p _ => p
  | method p _ _ => p

/-- The text of a key in a graph. -/
def id : Key → String
  | package p => p
  | type p n => p ++ "." ++ n
  | function p n => p ++ "." ++ n
  | method p r n => p ++ "." ++ r ++ "." ++ n

/-- The word for the kind of a key. -/
def kindName : Key → String
  | package _ => "package"
  | type _ _ => "type"
  | function _ _ => "function"
  | method _ _ _ => "method"

end Key

/-- The source files of one directory. -/
structure Package where
  path : String
  name : String
  directory : String
  imports : List String := []
  deriving DecidableEq, Repr, Inhabited

/-- One named field of a record and the type it comes down to. -/
structure FieldRef where
  name : String
  typeName : String
  typePackage : String
  deriving DecidableEq, Repr, Inhabited

inductive TypeKind where
  | record
  | interface
  deriving DecidableEq, Repr, Inhabited

def TypeKind.word : TypeKind → String
  | record => "record"
  | interface => "interface"

/-- A declared record or interface. -/
structure TypeDecl where
  name : String
  package : String
  kind : TypeKind
  file : String
  line : Int
  fields : List FieldRef := []
  embeds : List String := []
  deriving DecidableEq, Repr, Inhabited

structure FunctionDecl where
  name : String
  package : String
  file : String
  line : Int
  calls : List CallSite := []
  deriving DecidableEq, Repr, Inhabited

/-- A function with a receiver type. -/
structure MethodDecl extends FunctionDecl where
  receiver : String
  deriving DecidableEq, Repr, Inhabited

def Package.key (p : Package) : Key := .package p.path

def TypeDecl.key (t : TypeDecl) : Key := .type t.package t.name

def FunctionDecl.key (f : FunctionDecl) : Key := .function f.package f.name

def MethodDecl.key (m : MethodDecl) : Key := .method m.package m.receiver m.name

/-- The symbols found so far, with the directory that packages are named from and the
path of the module. -/
structure Symbols where
  base : String
  modulePath : String := ""
  packages : Table Key Package := {}
  types : Table Key TypeDecl := {}
  functions : Table Key FunctionDecl := {}
  methods : Table Key MethodDecl := {}
  deriving Repr, Inhabited

namespace Symbols

/-- The identity of the package in a directory, given from the base. Without a module
path it keeps its slash. -/
def packagePath (s : Symbols) (dir : String) : String :=
  if dir == "" || dir == "." then s.modulePath else s.modulePath ++ "/" ++ dir

/-- Makes sure that a package is there. One that is there already stays as it is. -/
def ensurePackage (s : Symbols) (path name directory : String) : Symbols :=
  let key := Key.package path
  if s.packages.contains key then s
  else { s with packages := s.packages.insert key { path, name, directory } }

/-- Adds imports to a package, at the end. -/
def addImports (s : Symbols) (path : String) (imports : List String) : Symbols :=
  { s with
    packages := s.packages.modify (.package path) fun p =>
      { p with imports := p.imports ++ imports } }

def addType (s : Symbols) (t : TypeDecl) : Symbols :=
  { s with types := s.types.insert t.key t }

def addFunction (s : Symbols) (f : FunctionDecl) : Symbols :=
  { s with functions := s.functions.insert f.key f }

def addMethod (s : Symbols) (m : MethodDecl) : Symbols :=
  { s with methods := s.methods.insert m.key m }

/-- A type of that name is known in the package. -/
def hasType (s : Symbols) (package name : String) : Bool :=
  s.types.contains (.type package name)

/-- The function of the same package that a plain call names, if there is one. Selector
calls name none. -/
def resolveCall (s : Symbols) (package : String) (call : CallSite) : Option Key :=
  if call.isSelector then none
  else
    let key := Key.function package call.target
    if s.functions.contains key then some key else none

end Symbols

end SourceAtlas
