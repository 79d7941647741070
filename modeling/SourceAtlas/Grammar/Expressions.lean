-- Expressions: operands with what is appended to them, prefix operators, and binary
-- operators by precedence.
import SourceAtlas.Grammar.Reading
import SourceAtlas.Grammar.Types

namespace SourceAtlas.Grammar

/-! ## Blocks

A block needs no more than statements, and function literals need blocks. -/

/-- Words that close a list of statements. -/
def statementClosers : List String := ["\x7d", "case", "default"]

/-- Statements with terminators between them, up to a word that closes the list. -/
def statements (g : Rules) : Parser (List Node) :=
  collect g.limit do
    if (← atAny statementClosers) || (← atKind .endOfSource) then return none
    let statement ← g.statement
    if !(← atAny statementClosers) then terminator
    return some statement

def block (g : Rules) : Parser Node := do
  let start := (← expect "\x7b").start
  let body ← statements g
  let _ ← expect "\x7d"
  return inner "block" start body

/-! ## Types as the start of an expression -/

/-- The rest of a conversion to a type: one value between parentheses. -/
def conversion (g : Rules) (type : Node) : Parser Node := do
  let _ ← expect "("
  let value ← g.expression .inside
  let _ ← accept ","
  let _ ← expect ")"
  return inner "type_conversion_expression" type.start
    [type.withField "type", value.withField "operand"]

def compositeLiteral (type body : Node) : Node :=
  inner "composite_literal" type.start [type.withField "type", body.withField "body"]

/-- One element of a composite literal, perhaps after a key. -/
def element (g : Rules) : Parser Node := do
  let value : Parser Node := do
    if ← isAt "\x7b" then g.literalValue else g.expression .inside
  let first ← value
  if ← accept ":" then
    return inner "keyed_element" first.start
      [inner "literal_element" first.start [first], inner "literal_element" first.start [← value]]
  return inner "literal_element" first.start [first]

/-- The part of a composite literal between braces. -/
def literalValueRule (g : Rules) : Parser Node := do
  let start := (← expect "\x7b").start
  let elements ← looseListUntil g.limit "\x7d" (element g)
  return inner "literal_value" start elements

/-- The kinds of types, names apart, that a composite literal can have. -/
def literalTypeKinds : List String :=
  ["slice_type", "array_type", "implicit_length_array_type", "map_type", "struct_type"]

/-- A list type whose length is counted from the literal it belongs to. -/
def countedListType (g : Rules) : Parser Node := do
  let start := (← expect "[").start
  let _ ← expect "..."
  let _ ← expect "]"
  return inner "implicit_length_array_type" start (roles "element" [← g.type .inside])

/-- A type or an operand with type arguments, each of which is one type, as a value. -/
def instantiation (base : Node) (typeArgs : List Node) : Parser Node := do
  if typeArgs.any (·.children.length != 1) then failure
  return inner "type_instantiation_expression" base.start (base.withField "type" :: typeArgs)

/-- What can follow a type in an expression: the value of a conversion, or type
arguments, which may be the last part of the type. -/
def typeTail (g : Rules) (s : Scope) (type : Node) : Parser Node := do
  if ← isAt "(" then return ← conversion g type
  if ← follows s "[" then return ← instantiation type (← typeArguments g).children
  match splitArguments? type with
  | some (base, typeArgs) => instantiation base typeArgs
  | none => failure

/-- A type that starts an expression. -/
def typeOperand (g : Rules) (s : Scope) : Parser Node := do
  let counted := (← peekSecond).is "..."
  let type ← if counted then countedListType g else typeRule g .inside
  let literal := literalTypeKinds.contains type.kind
    || (s != .header && type.kind == "negated_type" && (splitArguments? type).isSome)
  if (← isAt "\x7b") && literal then
    return compositeLiteral type (← literalValueRule g)
  if counted then failure
  typeTail g s type

/-- A function with a body, or else its type. -/
def functionOperand (g : Rules) (s : Scope) : Parser Node := do
  let start := (← expect "func").start
  let parts ← signature g .inside
  if ← isAt "\x7b" then
    return inner "func_literal" start (parts ++ [(← block g).withField "body"])
  typeTail g s (inner "function_type" start parts)

/-- An expression between parentheses, or else a type between them. -/
def parenthesizedOperand (g : Rules) (s : Scope) : Parser Node :=
  orElse
    (do
      let start := (← expect "(").start
      let value ← g.expression .inside
      let _ ← expect ")"
      return inner "parenthesized_expression" start [value])
    (do typeTail g s (← typeRule g .inside))

/-! ## Operands -/

/-- The kind of a literal word. -/
def literalKind? : TokenKind → Option String
  | .int => some "int_literal"
  | .float => some "float_literal"
  | .imaginary => some "imaginary_literal"
  | .rune => some "rune_literal"
  | .string => some "interpreted_string_literal"
  | .rawString => some "raw_string_literal"
  | _ => none

/-- Names that are constants of the language. -/
def constantNames : List String := ["nil", "true", "false", "iota"]

/-- Functions of the language whose first argument is a type. -/
def allocatorNames : List String := ["new", "make"]

/-- The kind of a name in an expression. -/
def nameKind (name : String) : String := if constantNames.contains name then name else "identifier"

/-- The arguments of an allocation: a type, then values. -/
def allocationArguments (g : Rules) : Parser Node := do
  let start := (← expect "(").start
  if ← accept ")" then return inner "argument_list" start []
  let type ← g.type .inside
  let values ← collect g.limit do
    if (← isAt ",") && !(← peekSecond).is ")" then
      let _ ← next
      return some (← g.expression .inside)
    else return none
  let _ ← accept ","
  let _ ← expect ")"
  return inner "argument_list" start (type :: values)

/-- A name, or the allocation that it starts. -/
def nameOperand (g : Rules) (s : Scope) : Parser Node := do
  let t ← expectKind .name
  let name := leaf (nameKind t.text) t
  if allocatorNames.contains t.text && (← follows s "(") then
    return inner "call_expression" t.start
      [name.withField "function", (← allocationArguments g).withField "arguments"]
  return name

def operand (g : Rules) (s : Scope) : Parser Node := do
  let t ← peek
  match t.kind with
  | .name => nameOperand g s
  | .fixed =>
    match t.text with
    | "(" => parenthesizedOperand g s
    | "func" => functionOperand g s
    | "[" | "map" | "chan" | "struct" | "interface" | "~" => typeOperand g s
    | _ => failure
  | kind =>
    match literalKind? kind with
    | some literal => return leaf literal (← next)
    | none => failure

/-! ## What is appended to an operand -/

/-- The type that a name, perhaps from another package, stands for when it is read as one. -/
def typeOf? (n : Node) : Option Node :=
  let word (m : Node) : Token := { kind := .name, text := m.text, start := m.start }
  let free (m : Node) : Bool := m.kind == "identifier" && !allocatorNames.contains m.text
  if free n then some (leaf "type_identifier" (word n))
  else if n.kind == "selector_expression" then
    match n.child? "operand", n.child? "field" with
    | some package, some name =>
      if free package then some (qualifiedType (word package) (word name)) else none
    | _, _ => none
  else none

/-- An argument, and whether dots follow it. -/
def argument (g : Rules) : Parser (Node × Bool) := do
  let value ← g.expression .inside
  return (value, ← accept "...")

/-- The arguments of a call, and whether they are one value without dots. -/
def arguments (g : Rules) : Parser (Node × Bool) := do
  let start := (← expect "(").start
  let found ← listUntil g.limit ")" (argument g)
  return (inner "argument_list" start (found.map (·.1)), found.map (·.2) == [false])

/-- A call of `callee`. -/
def call (g : Rules) (callee : Node) : Parser Node := do
  let (values, _) ← arguments g
  return inner "call_expression" callee.start
    [callee.withField "function", values.withField "arguments"]

/-- A call with type arguments. With one value, the call of a name is a conversion to the
generic type of that name. -/
def typedCall (g : Rules) (base typeArgs : Node) : Parser Node := do
  let (values, single) ← arguments g
  match typeOf? base, single with
  | some name, true =>
    return inner "type_conversion_expression" base.start
      ((genericType name typeArgs).withField "type" :: roles "operand" values.children)
  | _, _ =>
    return inner "call_expression" base.start
      [base.withField "function", typeArgs.withField "type_arguments",
       values.withField "arguments"]

/-- The bounds of a slice after its first colon. With a third bound the second one must be
there too. -/
def slice (g : Rules) (base : Node) (low : List Node) : Parser Node := do
  let bounds ←
    if ← isAt "]" then pure []
    else do
      let second ← g.expression .inside
      if ← accept ":" then pure [second, ← g.expression .inside] else pure [second]
  let _ ← expect "]"
  return inner "slice_expression" base.start (base.withField "operand" :: low ++ bounds)

/-- A name that expressions take for themselves, so that it is no type, label or type
parameter where an expression could stand. -/
def isTaken (t : Token) : Bool :=
  t.kind == .name && (constantNames ++ allocatorNames).contains t.text

/-- The first name after stars and opening parentheses is taken. -/
def atTakenName : Parser Bool := do
  let rest := (← get).dropWhile fun t => t.is "*" || t.is "("
  return rest.head?.any isTaken

/-- The kinds of operands, names apart, that can take type arguments without a call. -/
def typedKinds : List String :=
  ["parenthesized_expression", "index_expression", "type_instantiation_expression"]

/-- Types between brackets after an operand. They belong to a call, to a composite
literal, or to the operand alone. `taken` tells of a name that keeps them from a call. -/
def typedBrackets (g : Rules) (s : Scope) (base typeArgs : Node) (taken : Bool) :
    Parser Node := do
  if (← follows s "(") && !taken then return ← typedCall g base typeArgs
  match typeOf? base with
  | none =>
    if typedKinds.contains base.kind then instantiation base typeArgs.children else failure
  | some name =>
    if s != .header && (← follows s "\x7b") then
      return compositeLiteral (genericType name typeArgs) (← literalValueRule g)
    instantiation name typeArgs.children

/-- Brackets after an operand: an index, a slice, or types. Where both an index and types
are possible, types need a call or a composite literal behind them; for a call they must
also weigh no less than the index. -/
def brackets (g : Rules) (s : Scope) (base : Node) : Parser Node := do
  let start := (← expect "[").start
  if ← accept ":" then return ← slice g base []
  let taken ← atTakenName
  let value ← attempt (g.expression .inside)
  let types ← attempt (typesUntilBracket g)
  let value := value.filter fun (_, rest) => rest.head?.any fun t => t.is "]" || t.is ":"
  let index (v : Node) : Node :=
    inner "index_expression" base.start [base.withField "operand", v.withField "index"]
  match value, types with
  | none, none => failure
  | none, some (ts, rest) =>
    set rest
    typedBrackets g s base (inner "type_arguments" start ts) taken
  | some (v, rest), none =>
    set rest
    if ← accept ":" then slice g base [v]
    else
      let _ ← expect "]"
      return index v
  | some (v, _), some (ts, rest) =>
    set rest
    let typed ←
      if ← follows s "(" then pure (!taken && weight v ≤ total (stepsAll false ts))
      else if s != .header && (← follows s "\x7b") then pure (typeOf? base).isSome
      else pure false
    if typed then typedBrackets g s base (inner "type_arguments" start ts) taken
    else return index v

/-- What comes after a dot: a name or an asserted type. -/
def selection (g : Rules) (base : Node) : Parser Node := do
  let _ ← expect "."
  if ← accept "(" then
    let type ← g.type .inside
    let _ ← expect ")"
    return inner "type_assertion_expression" base.start
      [base.withField "operand", type.withField "type"]
  let name ← expectKind .name
  return inner "selector_expression" base.start
    [base.withField "operand", (leaf "field_identifier" name).withField "field"]

/-- The next words ask for the type of a value, as only a type switch can. -/
def atTypeGuard : Parser Bool := do
  let words := (← get).take 4
  return words.map (·.text) == [".", "(", "type", ")"]

/-- Appends to an operand as long as something can be appended. -/
def appended (g : Rules) (s : Scope) : Nat → Node → Parser Node
  | 0, base => return base
  | fuel + 1, base => do
    if !(← continues s) || (← atTypeGuard) then return base
    if ← isAt "." then return ← appended g s fuel (← selection g base)
    if ← isAt "[" then return ← appended g s fuel (← brackets g s base)
    if ← isAt "(" then return ← appended g s fuel (← call g base)
    match typeOf? base with
    | some type =>
      if s != .header && (← isAt "\x7b") then
        return ← appended g s fuel (compositeLiteral type (← literalValueRule g))
      return base
    | none => return base

/-! ## Operators -/

def prefixOperators : List String := ["+", "-", "!", "^", "*", "&", "<-"]

/-- An operand with its prefix operators, the last of which binds first. -/
def unary (g : Rules) (s : Scope) : Parser Node := do
  let operators ← collect g.limit do
    if ← atAny prefixOperators then return some (← next) else return none
  let base ← appended g s g.limit (← operand g s)
  return operators.foldr
    (fun t n => inner "unary_expression" t.start [n.withField "operand"]) base

/-- The operators of each precedence, the tightest first. -/
def precedences : List (List String) :=
  [["*", "/", "%", "<<", ">>", "&", "&^"],
   ["+", "-", "|", "^"],
   ["==", "!=", "<", "<=", ">", ">="],
   ["&&"],
   ["||"]]

/-- Joins neighbours whose operator is one of the given, from the left. -/
def joinLevel (operators : List String) : Node → List (String × Node) → Node × List (String × Node)
  | first, [] => (first, [])
  | first, (op, n) :: rest =>
    if operators.contains op then
      joinLevel operators
        (inner "binary_expression" first.start [first.withField "left", n.withField "right"]) rest
    else
      let (second, rest) := joinLevel operators n rest
      (first, (op, second) :: rest)

/-- The tree of a chain of operands and operators. -/
def joinAll (first : Node) (rest : List (String × Node)) : Node :=
  (precedences.foldl (fun (first, rest) operators => joinLevel operators first rest)
    (first, rest)).1

/-- Any expression. -/
def expressionRule (g : Rules) (s : Scope) : Parser Node := do
  let first ← unary g s
  let rest ← collect g.limit do
    if ← followsAny s precedences.flatten then
      let op ← next
      return some (op.text, ← unary g s)
    else return none
  return joinAll first rest

def expressionList (g : Rules) (s : Scope) : Parser (List Node) :=
  commaSeparated g.limit s (expressionRule g s)

end SourceAtlas.Grammar
