-- Import paths of a file, and which of them belong to the standard library.
import SourceAtlas.Text.Basic
import SourceAtlas.Tree.Node

namespace SourceAtlas

namespace Import

/-- The name spaces of the standard library. One that ends in a slash also stands for
the path without the slash. -/
def standardSpaces : List String :=
  ["archive/", "bufio", "bytes", "compress/", "container/",
   "context", "crypto/", "database/", "debug/", "embed",
   "encoding/", "errors", "expvar", "flag", "fmt",
   "go/", "hash/", "html/", "image/", "index/",
   "io", "log", "math/", "mime/", "net/",
   "os", "path/", "plugin", "reflect", "regexp",
   "runtime/", "sort", "strconv", "strings", "sync",
   "syscall", "testing", "text/", "time", "unicode/",
   "unsafe"]

/-- The path lies in the name space. A name space without a slash also takes in every
longer path that begins with it. -/
def inSpace (path space : String) : Bool :=
  Text.startsWith path space
    || path.toList == Text.dropTrailing (· == '/') space.toList

/-- The first component of the path. -/
def host (path : String) : List Char := path.toList.takeWhile (· != '/')

/-- A path of the standard library: its first component has no dot, or it lies in one of
the name spaces. -/
def isStandard (path : String) : Bool :=
  !(host path).contains '.' || standardSpaces.any (inSpace path)

/-- The marks that a path literal stands between. -/
def isQuote (c : Char) : Bool := c == '"' || c == '\x60'

end Import

namespace Node

/-- The import specifications of an import declaration, single or in a group. -/
def importSpecs (decl : Node) : List Node :=
  (decl.parts.flatMap fun spec =>
    if spec.kind == "import_spec_list" then spec.parts else [spec]).filter
      (·.kind == "import_spec")

/-- The path of an import specification without its quotes. -/
def importPath (spec : Node) : String := Text.trim Import.isQuote (textOf (spec.child? "path"))

/-- All import paths of a file, in source order. -/
def importPaths (file : Node) : List String :=
  (file.parts.filter (·.kind == "import_declaration")).flatMap fun decl =>
    decl.importSpecs.map importPath

/-- The imports of a file that do not belong to the standard library. -/
def foreignImports (file : Node) : List String :=
  file.importPaths.filter fun path => !Import.isStandard path

end Node

end SourceAtlas
