-- Small parsers over words, and how nodes are made from them. A parser either takes
-- some words and gives a result, or fails at a position and takes nothing.
import SourceAtlas.Grammar.Scanner

namespace SourceAtlas.Grammar

/-- A parser over the words that are left. -/
abbrev Parser := StateT (List Token) (Except Position)

/-- The place of a type or an expression, which decides how far it reaches. -/
inductive Scope where
  /-- A newline after the last word that is needed ends it. -/
  | line
  /-- It stands inside of something, and a newline is a blank. -/
  | inside
  /-- It stands before a block: a newline is a blank, and a brace after a name starts the
  block. -/
  | header
  deriving DecidableEq, Repr, Inhabited

/-- The parsers for the parts of the language that can hold each other, one level of
nesting further down. `limit` bounds the length of any list. -/
structure Rules where
  limit : Nat
  type : Scope → Parser Node
  expression : Scope → Parser Node
  /-- The part of a composite literal between braces. -/
  literalValue : Parser Node
  statement : Parser Node

/-! ## Words -/

/-- What stands in place of a word when there are no more. -/
def Token.none : Token := { kind := .endOfSource, text := "", start := {} }

/-- The next word, which stays. -/
def peek : Parser Token := do
  return (← get).head?.getD .none

/-- The word after the next one. -/
def peekSecond : Parser Token := do
  return ((← get).drop 1).head?.getD .none

def failure {α : Type} : Parser α := do
  throw (← peek).start

/-- Takes the next word. The end of the source is never taken. -/
def next : Parser Token := do
  let t ← peek
  if t.kind == .endOfSource then failure
  modify (·.drop 1)
  return t

def Token.is (t : Token) (text : String) : Bool := t.kind == .fixed && t.text == text

/-- The next word is the given keyword or mark. -/
def isAt (text : String) : Parser Bool := do
  return (← peek).is text

/-- The next word is one of the given keywords or marks. -/
def atAny (texts : List String) : Parser Bool := do
  let t ← peek
  return t.kind == .fixed && texts.contains t.text

def atKind (kind : TokenKind) : Parser Bool := do
  return (← peek).kind == kind

/-- Takes the given keyword or mark if it comes next. -/
def accept (text : String) : Parser Bool := do
  if ← isAt text then
    let _ ← next
    return true
  return false

/-- Takes the given keyword or mark. -/
def expect (text : String) : Parser Token := do
  if ← isAt text then next else failure

/-- Takes a word of the given kind. -/
def expectKind (kind : TokenKind) : Parser Token := do
  if ← atKind kind then next else failure

/-! ## Words that may follow -/

/-- What has been read can go on with the next word. -/
def continues (s : Scope) : Parser Bool := do
  return !(s == .line && (← peek).fresh)

/-- The given keyword or mark follows what has been read. -/
def follows (s : Scope) (text : String) : Parser Bool := do
  return (← continues s) && (← isAt text)

/-- One of the given keywords or marks follows what has been read. -/
def followsAny (s : Scope) (texts : List String) : Parser Bool := do
  return (← continues s) && (← atAny texts)

/-- Takes the given keyword or mark if it follows what has been read. -/
def acceptIn (s : Scope) (text : String) : Parser Bool := do
  if ← follows s text then
    let _ ← next
    return true
  return false

/-- The word is no longer the first one after a newline. -/
def Token.settled (t : Token) : Token := { t with fresh := false }

/-- Takes the end of an item: a newline, or else a semicolon. The end of the source ends
an item too. -/
def terminator : Parser Unit := do
  let t ← peek
  if t.fresh then modify fun words => (words.take 1).map Token.settled ++ words.drop 1
  else if t.kind == .semicolon then
    let _ ← next
  else if t.kind != .endOfSource then failure

/-! ## Combinations -/

/-- Tries the first parser, and the second from the same words when it fails. -/
def orElse {α : Type} (first second : Parser α) : Parser α := fun words =>
  match first words with
  | .ok found => .ok found
  | .error _ => second words

/-- What the parser would give, and the words that it would leave. Nothing is taken. -/
def attempt {α : Type} (p : Parser α) : Parser (Option (α × List Token)) := fun words =>
  match p words with
  | .ok found => .ok (some found, words)
  | .error _ => .ok (none, words)

/-- Runs the parser if the given word follows what has been read. -/
def when {α : Type} (s : Scope) (text : String) (p : Parser α) : Parser (Option α) := do
  if ← follows s text then return some (← p) else return none

/-- Collects results until the parser gives none, at most `limit` of them. -/
def collect {α : Type} (limit : Nat) (p : Parser (Option α)) : Parser (List α) :=
  match limit with
  | 0 => return []
  | limit + 1 => do
    match ← p with
    | none => return []
    | some a => return a :: (← collect limit p)

/-- One or more results with commas between them. -/
def commaSeparated {α : Type} (limit : Nat) (s : Scope) (p : Parser α) : Parser (List α) := do
  let first ← p
  let rest ← collect limit do
    if ← acceptIn s "," then return some (← p) else return none
  return first :: rest

/-- Results with commas between them, up to a closing mark that is taken. A comma may
stand before the mark. -/
def listUntil {α : Type} (limit : Nat) (close : String) (p : Parser α) : Parser (List α) := do
  if ← accept close then return []
  let first ← p
  let rest ← collect limit do
    if (← isAt ",") && !(← peekSecond).is close then
      let _ ← next
      return some (← p)
    else return none
  let _ ← accept ","
  let _ ← expect close
  return first :: rest

/-- As `listUntil`, where a comma may also stand alone. -/
def looseListUntil {α : Type} (limit : Nat) (close : String) (p : Parser α) :
    Parser (List α) := do
  if ← accept "," then
    let _ ← expect close
    return []
  listUntil limit close p

/-- Items with terminators between them, up to a closing mark that is taken. There may be
a terminator before the mark. -/
def itemsUntil (limit : Nat) (close : String) (p : Parser Node) : Parser (List Node) := do
  let items ← collect limit do
    if ← isAt close then return none
    let item ← p
    if !(← isAt close) then terminator
    return some item
  let _ ← expect close
  return items

/-! ## Nodes -/

/-- A node made of one word. -/
def leaf (kind : String) (t : Token) : Node :=
  .mk { kind, text := some t.text, garbled := t.garbled, start := t.start } []

/-- A node with parts. -/
def inner (kind : String) (start : Position) (children : List Node) : Node :=
  .mk { kind, start } children

/-- A part in a role, if it is there. -/
def role (field : String) (n : Option Node) : List Node := (n.map (Node.withField field)).toList

/-- Parts in one role. -/
def roles (field : String) (ns : List Node) : List Node := ns.map (Node.withField field)

end SourceAtlas.Grammar
