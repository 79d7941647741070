-- Statements, from assignments to the ones that hold blocks.
import SourceAtlas.Grammar.Declarations

namespace SourceAtlas.Grammar

/-! ## Simple statements -/

/-- Marks that put values into places. -/
def assignmentMarks : List String :=
  ["=", ":=", "+=", "-=", "*=", "/=", "%=", "&=", "|=", "^=", "<<=", ">>=", "&^="]

/-- What follows the expressions that a simple statement starts with: values for them, a
step by one, a sending, or nothing. -/
def simpleTail (g : Rules) (s : Scope) (start : Position) (left : List Node) :
    Parser Node := do
  if ← followsAny s assignmentMarks then
    let mark ← next
    let right ← expressionList g s
    let kind := if mark.text == ":=" then "short_var_declaration" else "assignment_statement"
    return inner kind start
      [(inner "expression_list" start left).withField "left",
       (inner "expression_list" start right).withField "right"]
  match left with
  | [value] =>
    if ← acceptIn s "++" then return inner "inc_statement" start [value]
    if ← acceptIn s "--" then return inner "dec_statement" start [value]
    if ← acceptIn s "<-" then
      let sent ← expressionRule g s
      return inner "send_statement" start [value.withField "channel", sent.withField "value"]
    return inner "expression_statement" start [value]
  | _ => failure

/-- An expression, an assignment, a step by one, or a sending. -/
def simpleStatement (g : Rules) (s : Scope) : Parser Node := do
  let start := (← peek).start
  simpleTail g s start (← expressionList g s)

/-! ## Headers -/

/-- The next word is a semicolon between the parts of a header. -/
def atSemicolon : Parser Bool := do
  let t ← peek
  return t.kind == .semicolon && t.text == ";"

def semicolon : Parser Unit := do
  if ← atSemicolon then
    let _ ← next
  else failure

/-- The expression that a statement consists of. -/
def expressionOf (statement : Node) : Parser Node :=
  match statement.kind, statement.children with
  | "expression_statement", [value] => return value
  | _, _ => failure

/-! ## Branches -/

/-- The part of a conditional statement after its condition. `more` reads another one. -/
def conditionalTail (g : Rules) (more : Parser Node) : Parser (List Node) := do
  let consequence ← block g
  if ← acceptIn .line "else" then
    let alternative ← if ← isAt "if" then more else block g
    return [consequence.withField "consequence", alternative.withField "alternative"]
  return [consequence.withField "consequence"]

/-- A conditional statement. The limit bounds the chain of further conditions. -/
def ifStatement (g : Rules) : (limit : Nat) → Parser Node
  | 0 => failure
  | limit + 1 => do
    let start := (← expect "if").start
    let first ← simpleStatement g .header
    let (before, condition) ←
      if ← atSemicolon then do
        semicolon
        pure ([first], ← expressionRule g .header)
      else do pure ([], ← expressionOf first)
    let tail ← conditionalTail g (ifStatement g limit)
    return inner "if_statement" start
      (roles "initializer" before ++ condition.withField "condition" :: tail)

/-- One case of a switch. `labels` reads what the case is for. -/
def switchCase (g : Rules) (kind : String) (labels : Parser (List Node)) : Parser Node := do
  let t ← peek
  if ← accept "default" then
    let _ ← expect ":"
    return inner "default_case" t.start (← statements g)
  let _ ← expect "case"
  let found ← labels
  let _ ← expect ":"
  return inner kind t.start (found ++ (← statements g))

/-- The cases of a switch between braces. -/
def switchCases (g : Rules) (kind : String) (labels : Parser (List Node)) :
    Parser (List Node) := do
  let _ ← expect "\x7b"
  let cases ← collect g.limit do
    if ← isAt "\x7d" then return none
    return some (← switchCase g kind labels)
  let _ ← expect "\x7d"
  return cases

/-- The value whose type a switch asks for, perhaps after a name for it. -/
def guardParts (statement : Node) : Parser (List Node) :=
  match statement.kind, statement.children with
  | "expression_statement", [value] => return [value.withField "value"]
  | "short_var_declaration", [left, right] =>
    match right.children with
    | [value] => return [left.withField "alias", value.withField "value"]
    | _ => failure
  | _, _ => failure

/-- The question for a type belongs to all of the value before it, so that the value has
no operators of its own. -/
def isGuardable (parts : List Node) : Bool :=
  parts.all fun n => n.kind != "unary_expression" && n.kind != "binary_expression"

/-- A value with stars in front whose type a switch asks for. It is a conversion to a
pointer type, with whatever is appended to it. -/
def pointerGuard (g : Rules) : Parser (List Node) := do
  let named ← attempt do
    let start := (← peek).start
    let left ← expressionList g .header
    let _ ← expect ":="
    return (inner "expression_list" start left).withField "alias"
  let before ←
    match named with
    | some (node, rest) => do
      set rest
      pure [node]
    | none => pure []
  if !(← isAt "*") || (← atTakenName) then failure
  let value ← appended g .header g.limit (← conversion g (← typeRule g .header))
  return before ++ [value.withField "value"]

/-- What stands before the question for a type, when `statement` has been read there.
`words` are the words that it was read from. -/
def guardRule (g : Rules) (words : List Token) (statement : Node) : Parser (List Node) := do
  let parts ← guardParts statement
  if isGuardable parts then return parts
  set words
  let parts ← pointerGuard g
  if ← atTypeGuard then return parts else failure

/-- The rest of a switch over values. -/
def valueSwitch (g : Rules) (start : Position) (head : List Node) : Parser Node := do
  let cases ← switchCases g "expression_case"
    (commaSeparated g.limit .inside (g.expression .inside))
  return inner "expression_switch_statement" start (head ++ cases)

/-- The last part of the header of a switch, and the rest of the switch. -/
def switchTail (g : Rules) (start : Position) (before : List Node) (words : List Token)
    (subject : Node) : Parser Node := do
  if ← atTypeGuard then
    let guard ← guardRule g words subject
    modify (·.drop 4)
    let cases ← switchCases g "type_case" (commaSeparated g.limit .inside (g.type .inside))
    return inner "type_switch_statement" start (before ++ guard ++ cases)
  let value ← expressionOf subject
  valueSwitch g start (before ++ [value.withField "value"])

/-- A switch over types or over values. -/
def switchStatement (g : Rules) : Parser Node := do
  let start := (← expect "switch").start
  if ← isAt "\x7b" then return ← valueSwitch g start []
  let words ← get
  let first ← simpleStatement g .header
  if ← atSemicolon then
    semicolon
    let before := roles "initializer" [first]
    if ← isAt "\x7b" then return ← valueSwitch g start before
    let words ← get
    switchTail g start before words (← simpleStatement g .header)
  else switchTail g start [] words first

/-- A sending, or a receiving with or without places for what comes. -/
def communication (g : Rules) : Parser Node := do
  let start := (← peek).start
  let left ← expressionList g .inside
  if ← atAny ["=", ":="] then
    let _ ← next
    let value ← expressionRule g .inside
    return inner "receive_statement" start
      [(inner "expression_list" start left).withField "left", value.withField "right"]
  match left with
  | [value] =>
    if ← accept "<-" then
      let sent ← expressionRule g .inside
      return inner "send_statement" start [value.withField "channel", sent.withField "value"]
    return inner "receive_statement" start [value.withField "right"]
  | _ => failure

/-- A choice between communications. -/
def selectStatement (g : Rules) : Parser Node := do
  let start := (← expect "select").start
  let cases ← switchCases g "communication_case" do
    return [(← communication g).withField "communication"]
  return inner "select_statement" start cases

/-! ## Loops -/

/-- The value that a loop walks over, after the places for its items. -/
def rangeTail (g : Rules) (start : Position) (places : List Node) : Parser (List Node) := do
  let _ ← expect "range"
  let value ← expressionRule g .header
  return [inner "range_clause" start (places ++ [value.withField "right"])]

/-- Condition and step after the start of a loop, each of which may be left out. -/
def stepTail (g : Rules) (start : Position) (first : List Node) : Parser (List Node) := do
  semicolon
  let condition ←
    if ← atSemicolon then pure [] else do pure [← expressionRule g .header]
  semicolon
  let step ←
    if ← isAt "\x7b" then pure [] else do pure [← simpleStatement g .header]
  return [inner "for_clause" start (first ++ condition ++ step)]

/-- What stands between the keyword of a loop and its block. -/
def loopHead (g : Rules) : Parser (List Node) := do
  let start := (← peek).start
  if ← isAt "\x7b" then return []
  if ← isAt "range" then return ← rangeTail g start []
  if ← atSemicolon then return ← stepTail g start []
  let left ← expressionList g .header
  if (← atAny ["=", ":="]) && (← peekSecond).is "range" then
    let _ ← next
    return ← rangeTail g start [(inner "expression_list" start left).withField "left"]
  let first ← simpleTail g .header start left
  if ← atSemicolon then return ← stepTail g start [first]
  return [← expressionOf first]

def forStatement (g : Rules) : Parser Node := do
  let start := (← expect "for").start
  let head ← loopHead g
  let body ← block g
  return inner "for_statement" start (head ++ [body.withField "body"])

/-! ## All statements -/

/-- A statement that starts with a word and goes on with an expression. -/
def wordAndExpression (g : Rules) (kind : String) : Parser Node := do
  let word ← next
  return inner kind word.start [← expressionRule g .line]

/-- A jump, perhaps with the name of a label. -/
def jump (kind : String) : Parser Node := do
  let word ← next
  let target ←
    if (← continues .line) && (← atKind .name) then do pure [leaf "label_name" (← next)]
    else pure []
  return inner kind word.start target

/-- The next word, on the same line, can start an expression. -/
def expressionFollows : Parser Bool := do
  let t ← peek
  if t.fresh then return false
  match t.kind with
  | .fixed =>
    return (["(", "func", "[", "map", "chan", "struct", "interface"] ++ prefixOperators).contains
      t.text
  | .semicolon => return false
  | .endOfSource => return false
  | _ => return true

def returnStatement (g : Rules) : Parser Node := do
  let word ← next
  if ← expressionFollows then
    return inner "return_statement" word.start (← expressionList g .line)
  return inner "return_statement" word.start []

/-- A statement after a label. At the end of a list of statements there may be none. -/
def labeledStatement (g : Rules) : Parser Node := do
  let label ← expectKind .name
  let _ ← expect ":"
  let name := (leaf "label_name" label).withField "label"
  if ← atAny statementClosers then return inner "labeled_statement" label.start [name]
  return inner "labeled_statement" label.start [name, ← g.statement]

/-- Any statement, without the terminator after it. A semicolon alone is a statement that
does nothing. -/
def statementRule (g : Rules) : Parser Node := do
  let t ← peek
  match t.kind with
  | .semicolon => do
    semicolon
    return inner "empty_statement" t.start []
  | .name => do
    let second ← peekSecond
    if second.is ":" && !second.fresh && !isTaken t then labeledStatement g
    else simpleStatement g .line
  | .fixed =>
    match t.text with
    | "\x7b" => block g
    | "if" => ifStatement g g.limit
    | "for" => forStatement g
    | "switch" => switchStatement g
    | "select" => selectStatement g
    | "go" => wordAndExpression g "go_statement"
    | "defer" => wordAndExpression g "defer_statement"
    | "return" => returnStatement g
    | "break" => jump "break_statement"
    | "continue" => jump "continue_statement"
    | "fallthrough" => return inner "fallthrough_statement" (← next).start []
    | "goto" => do
      let word ← next
      return inner "goto_statement" word.start [leaf "label_name" (← expectKind .name)]
    | "var" => varDeclaration g
    | "const" => constDeclaration g
    | "type" => typeDeclaration g
    | _ => simpleStatement g .line
  | _ => simpleStatement g .line

end SourceAtlas.Grammar
