-- Types: names, pointers, lists, maps, channels, functions, records, interfaces.
import SourceAtlas.Grammar.Parser

namespace SourceAtlas.Grammar

/-! ## Names of types -/

/-- Types with bars between them. -/
def typeUnion (g : Rules) (s : Scope) : Parser Node := do
  let start := (← peek).start
  let first ← g.type s
  let rest ← collect g.limit do
    if ← acceptIn s "|" then return some (← g.type s) else return none
  return inner "type_elem" start (first :: rest)

/-- Types up to a closing bracket that is taken. There is at least one. -/
def typesUntilBracket (g : Rules) : Parser (List Node) := do
  let types ← listUntil g.limit "]" (typeUnion g .inside)
  if types.isEmpty then failure
  return types

/-- The types between brackets after the name of a generic type. -/
def typeArguments (g : Rules) : Parser Node := do
  let start := (← expect "[").start
  return inner "type_arguments" start (← typesUntilBracket g)

/-- A type with type arguments. -/
def genericType (base arguments : Node) : Node :=
  inner "generic_type" base.start
    [base.withField "type", arguments.withField "type_arguments"]

/-- A type of another package. -/
def qualifiedType (package name : Token) : Node :=
  inner "qualified_type" package.start
    [(leaf "package_identifier" package).withField "package",
     (leaf "type_identifier" name).withField "name"]

/-- A type name, perhaps from another package, perhaps with type arguments. -/
def typeNameRule (g : Rules) (s : Scope) : Parser Node := do
  let first ← expectKind .name
  let base ←
    if ← acceptIn s "." then do pure (qualifiedType first (← expectKind .name))
    else pure (leaf "type_identifier" first)
  match ← when s "[" (typeArguments g) with
  | none => return base
  | some arguments => return genericType base arguments

/-! ## Functions -/

/-- A type, after its name or on its own. -/
structure Parameter where
  name : Option Token
  variadic : Bool
  type : Node

/-- The type of a parameter, with dots before it when there can be many arguments. -/
def parameterType (g : Rules) (name : Option Token) : Parser Parameter := do
  let variadic ← accept "..."
  return { name, variadic, type := ← g.type .inside }

/-- A parameter. A name that is followed by no type is the type itself. -/
def parameter (g : Rules) : Parser Parameter :=
  orElse
    (do
      let name ← expectKind .name
      parameterType g (some name))
    (parameterType g none)

/-- The name that a parameter without a type of its own has. -/
def Parameter.bareName? (p : Parameter) : Option Token :=
  if p.name.isNone && !p.variadic && p.type.kind == "type_identifier" then
    some { kind := .name, text := p.type.text, start := p.type.start }
  else none

def parameterNode (names : List Token) (p : Parameter) : Node :=
  let kind := if p.variadic then "variadic_parameter_declaration" else "parameter_declaration"
  let start := (names.head?.map (·.start)).getD p.type.start
  inner kind start
    (roles "name" (names.map (leaf "identifier")) ++ [p.type.withField "type"])

/-- A parameter that is only a name, which is then its type. -/
def bareParameter (name : Token) : Node :=
  parameterNode [] { name := none, variadic := false, type := leaf "type_identifier" name }

/-- Names right before a parameter with a name share its type. `waiting` holds them; when
no such parameter comes, they are types themselves. -/
def parameterNodes : (waiting : List Token) → List Parameter → List Node
  | waiting, [] => waiting.map bareParameter
  | waiting, p :: ps =>
    match p.bareName? with
    | some name => parameterNodes (waiting ++ [name]) ps
    | none =>
      if p.name.isSome && !p.variadic then
        parameterNode (waiting ++ p.name.toList) p :: parameterNodes [] ps
      else
        waiting.map bareParameter ++ parameterNode p.name.toList p :: parameterNodes [] ps

def parameters (g : Rules) : Parser Node := do
  let start := (← expect "(").start
  let ps ← looseListUntil g.limit ")" (parameter g)
  return inner "parameter_list" start (parameterNodes [] ps)

/-- The next word can start a type. -/
def atType : Parser Bool := do
  if ← atKind .name then return true
  atAny ["*", "(", "[", "map", "chan", "<-", "struct", "interface", "func", "~"]

/-- What a function gives back, if anything. -/
def result (g : Rules) (s : Scope) : Parser (Option Node) := do
  if ← follows s "(" then return some (← parameters g)
  if (← continues s) && (← atType) then return some (← g.type s)
  return none

/-- Parameters and result, as parts of a function. -/
def signature (g : Rules) (s : Scope) : Parser (List Node) := do
  let params ← parameters g
  return params.withField "parameters" :: role "result" (← result g s)

/-! ## Records and interfaces -/

def tag : Parser (List Node) := do
  if !(← continues .line) then return []
  if ← atKind .string then return [(leaf "interpreted_string_literal" (← next)).withField "tag"]
  if ← atKind .rawString then return [(leaf "raw_string_literal" (← next)).withField "tag"]
  return []

/-- A field with names. -/
def namedField (g : Rules) : Parser Node := do
  let start := (← peek).start
  let names ← commaSeparated g.limit .line (expectKind .name)
  let type ← g.type .line
  return inner "field_declaration" start
    (roles "name" (names.map (leaf "field_identifier")) ++ [type.withField "type"] ++ (← tag))

/-- A field without a name, which nothing may follow on its line. A star before its type
is no part of the type. -/
def embeddedField (g : Rules) : Parser Node := do
  let start := (← peek).start
  let _ ← accept "*"
  let type ← typeNameRule g .line
  let field := inner "field_declaration" start (type.withField "type" :: (← tag))
  let t ← peek
  if t.fresh || t.kind == .semicolon || t.is "\x7d" then return field
  failure

def recordType (g : Rules) : Parser Node := do
  let start := (← expect "struct").start
  let brace ← expect "\x7b"
  let fields ← itemsUntil g.limit "\x7d" (orElse (embeddedField g) (namedField g))
  return inner "struct_type" start [inner "field_declaration_list" brace.start fields]

/-- A method of an interface, or types that it takes in. -/
def interfaceItem (g : Rules) : Parser Node := do
  let t ← peek
  let second ← peekSecond
  if t.kind == .name && second.is "(" && !second.fresh then
    let name ← next
    return inner "method_elem" t.start
      ((leaf "field_identifier" name).withField "name" :: (← signature g .line))
  typeUnion g .line

def interfaceType (g : Rules) : Parser Node := do
  let start := (← expect "interface").start
  let _ ← expect "\x7b"
  return inner "interface_type" start (← itemsUntil g.limit "\x7d" (interfaceItem g))

/-! ## All types -/

/-- Lists, with a length or without one. -/
def listType (g : Rules) (s : Scope) : Parser Node := do
  let start := (← expect "[").start
  if ← accept "]" then
    return inner "slice_type" start (roles "element" [← g.type s])
  let length ← g.expression .inside
  let _ ← expect "]"
  return inner "array_type" start
    [length.withField "length", (← g.type s).withField "element"]

def mapType (g : Rules) (s : Scope) : Parser Node := do
  let start := (← expect "map").start
  let _ ← expect "["
  let key ← g.type .inside
  let _ ← expect "]"
  return inner "map_type" start [key.withField "key", (← g.type s).withField "value"]

/-- Channels, for both directions or for one. -/
def channelType (g : Rules) (s : Scope) : Parser Node := do
  let start := (← peek).start
  let receiving ← accept "<-"
  let _ ← expect "chan"
  if !receiving then
    let _ ← accept "<-"
  return inner "channel_type" start (roles "value" [← g.type s])

def functionType (g : Rules) (s : Scope) : Parser Node := do
  let start := (← expect "func").start
  return inner "function_type" start (← signature g s)

/-- Any type. A tilde before a type stands for all types that are built on it. -/
def typeRule (g : Rules) (s : Scope) : Parser Node := do
  let t ← peek
  if t.kind == .name then return ← typeNameRule g s
  if t.kind != .fixed then failure
  match t.text with
  | "*" => do
    let _ ← next
    return inner "pointer_type" t.start [← g.type s]
  | "~" => do
    let _ ← next
    let base := inner "negated_type" t.start [← g.type s]
    match ← when s "[" (typeArguments g) with
    | none => return base
    | some arguments => return genericType base arguments
  | "(" => do
    let _ ← next
    let type ← g.type .inside
    let _ ← expect ")"
    return inner "parenthesized_type" t.start [type]
  | "[" => listType g s
  | "map" => mapType g s
  | "chan" => channelType g s
  | "<-" => channelType g s
  | "struct" => recordType g
  | "interface" => interfaceType g
  | "func" => functionType g s
  | _ => failure

end SourceAtlas.Grammar
