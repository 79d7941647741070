-- A whole source text: from its bytes to its syntax tree. A text that cannot be read
-- gives a tree with an error node where the reading stopped.
import SourceAtlas.Grammar.Scanner
import SourceAtlas.Grammar.Statements
import SourceAtlas.Tree.Fault

namespace SourceAtlas.Grammar

/-! ## Nesting -/

/-- The level at which nothing can be read any more. -/
def Rules.ground (limit : Nat) : Rules where
  limit := limit
  type _ := failure
  expression _ := failure
  literalValue := failure
  statement := failure

/-- The rules of the language on top of a level. -/
def Rules.above (g : Rules) : Rules where
  limit := g.limit
  type := typeRule g
  expression := expressionRule g
  literalValue := literalValueRule g
  statement := statementRule g

/-- Room for `depth` levels of nesting. -/
def Rules.deep (limit depth : Nat) : Rules := Nat.repeat Rules.above depth (.ground limit)

/-! ## Files -/

/-- A top-level item: a clause, a declaration or a statement. A function without a name
is a statement. -/
def topLevelItem (g : Rules) : Parser Node := do
  let t ← peek
  if t.is "package" then packageClause
  else if t.is "import" then importDeclaration g
  else if t.is "func" then orElse (functionDeclaration g) (statementRule g)
  else statementRule g

/-- The kinds of items that the end of the source can end. The other ones, which are types
and statements that do not end with a value, need a newline or a semicolon. -/
def openKinds : List String :=
  ["package_clause", "import_declaration", "function_declaration", "method_declaration",
   "var_declaration", "const_declaration", "expression_statement", "send_statement",
   "assignment_statement", "short_var_declaration", "go_statement", "defer_statement",
   "return_statement"]

/-- An item and its terminator. -/
def closedItem (g : Rules) : Parser Node := do
  let item ← topLevelItem g
  let t ← peek
  if t.kind == .endOfSource && !t.fresh && !openKinds.contains item.kind then failure
  terminator
  return item

/-- All items up to the end of the source. -/
def sourceItems (g : Rules) : (limit : Nat) → Parser (List Node)
  | 0 => failure
  | limit + 1 => do
    if ← atKind .endOfSource then return []
    let item ← closedItem g
    return item :: (← sourceItems g limit)

/-- The items that some words make up. No source nests deeper than it has words. -/
def readItems (words : List Token) : Except Position (List Node) := do
  let bound := words.length + 1
  return (← (sourceItems (.deep bound bound) bound).run words).1

/-- The tree of some words, or one that only says where the reading stopped. -/
def treeOf (words : Except Position (List Token)) : Node :=
  match words.bind readItems with
  | .ok items => inner "source_file" {} items
  | .error p => inner "source_file" {} [inner Node.errorKind p []]

/-! ## Bytes -/

/-- The characters of some bytes from an index on. A byte that starts no character is read as
none. `fuel` bounds the number of steps. -/
def charsFrom (data : ByteArray) : (fuel index : Nat) → List (Option Char)
  | 0, _ => []
  | fuel + 1, index =>
    if data.size ≤ index then []
    else
      match data.utf8DecodeChar? index with
      | some c => some c :: charsFrom data fuel (index + c.utf8Size)
      | none => none :: charsFrom data fuel (index + 1)

/-- A character of private use that none of the characters is. -/
def standIn (cs : List (Option Char)) : Char :=
  let candidates := (List.range (cs.length + 1)).map fun n => Char.ofNat (0xF0000 + n)
  (candidates.find? fun c => !cs.contains (some c)).getD '\ufffd'

/-- The words of a source that is not all text. Its stray bytes can stand in literals and in
comments, as any character can, and nowhere else. -/
def scanStray (data : ByteArray) : Except Position (List Token) :=
  let cs := charsFrom data data.size 0
  let stray := standIn cs
  (scan (String.ofList (cs.map (·.getD stray)))).map fun words =>
    words.map fun t => { t with garbled := t.text.toList.contains stray }

/-- The tree of a source given as bytes. -/
def parseBytes (data : ByteArray) : Node :=
  match String.fromUTF8? data with
  | some text => treeOf (scan text)
  | none => treeOf (scanStray data)

end SourceAtlas.Grammar
