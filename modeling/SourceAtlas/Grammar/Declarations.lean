-- Declarations: imports, types, variables, constants, functions and methods.
import SourceAtlas.Grammar.Expressions

namespace SourceAtlas.Grammar

/-! ## Packages and imports -/

def packageClause : Parser Node := do
  let start := (← expect "package").start
  return inner "package_clause" start [leaf "package_identifier" (← expectKind .name)]

/-- The literal of an import path. -/
def importPathLiteral : Parser Node := do
  if ← atKind .rawString then return leaf "raw_string_literal" (← next)
  return leaf "interpreted_string_literal" (← expectKind .string)

/-- A path, perhaps after a name, a dot or a blank for it. -/
def importSpec : Parser Node := do
  let t ← peek
  let name ←
    if t.is "." then do pure (some (leaf "dot" (← next)))
    else if t.kind == .name then do
      pure (some (leaf (if t.text == "_" then "blank_identifier" else "package_identifier") (← next)))
    else pure none
  let path ← importPathLiteral
  return inner "import_spec" t.start (role "name" name ++ [path.withField "path"])

def importDeclaration (g : Rules) : Parser Node := do
  let start := (← expect "import").start
  let t ← peek
  if ← accept "(" then
    let specs ← itemsUntil g.limit ")" importSpec
    return inner "import_declaration" start [inner "import_spec_list" t.start specs]
  return inner "import_declaration" start [← importSpec]

/-! ## Types -/

/-- Type parameters with one constraint. -/
def typeParameter (g : Rules) : Parser Node := do
  let start := (← peek).start
  let names ← commaSeparated g.limit .inside (expectKind .name)
  let bound ← typeUnion g .inside
  return inner "type_parameter_declaration" start
    (roles "name" (names.map (leaf "identifier")) ++ [bound.withField "type"])

def typeParameters (g : Rules) : Parser Node := do
  let start := (← expect "[").start
  let found ← listUntil g.limit "]" (typeParameter g)
  if found.isEmpty then failure
  return inner "type_parameter_list" start found

/-- What follows the name of a declared type. An equals sign makes it an alias. -/
def typeBody (g : Rules) (name : Token) (params : List Node) : Parser Node := do
  let kind := if ← accept "=" then "type_alias" else "type_spec"
  let type ← g.type .line
  return inner kind name.start
    ((leaf "type_identifier" name).withField "name" :: params ++ [type.withField "type"])

/-- The brackets after the name of a declared type are better read as type parameters than
as the length of a list. When both weigh the same, a group prefers the length, and outside
of groups the reading counts that was ahead last. -/
def prefersParameters (g : Rules) (grouped : Bool) : Parser Bool := do
  let length ← attempt do
    let _ ← expect "["
    let value ← g.expression .inside
    let _ ← expect "]"
    return value
  let params ← attempt (typeParameters g)
  match length, params with
  | some (value, _), some (list, _) =>
    return weight value < weight list
      || (weight value == weight list && !grouped && aheadLast list (weight value))
  | none, _ => return true
  | _, none => return false

/-- A declared type. A bracket after the name starts a list type or type parameters,
whichever reading is better, and the other one where that fails. -/
def typeSpecRule (g : Rules) (grouped : Bool) : Parser Node := do
  let name ← expectKind .name
  let plain := typeBody g name []
  let generic := do
    if isTaken (← peekSecond) then failure
    let params ← typeParameters g
    typeBody g name [params.withField "type_parameters"]
  if ← isAt "[" then
    if ← prefersParameters g grouped then orElse generic plain else orElse plain generic
  else plain

def typeDeclaration (g : Rules) : Parser Node := do
  let start := (← expect "type").start
  if ← accept "(" then
    return inner "type_declaration" start (← itemsUntil g.limit ")" (typeSpecRule g true))
  return inner "type_declaration" start [← typeSpecRule g false]

/-! ## Variables and constants -/

/-- The values after an equals sign. -/
def values (g : Rules) : Parser Node := do
  let _ ← expect "="
  let start := (← peek).start
  return inner "expression_list" start (← commaSeparated g.limit .line (g.expression .line))

/-- Names with a type, with values, or with both. -/
def varSpec (g : Rules) : Parser Node := do
  let start := (← peek).start
  let names ← commaSeparated g.limit .inside (expectKind .name)
  let parts ←
    if ← isAt "=" then do pure (roles "value" [← values g])
    else do
      let type ← g.type .line
      pure (type.withField "type" :: role "value" (← when .line "=" (values g)))
  return inner "var_spec" start (roles "name" (names.map (leaf "identifier")) ++ parts)

/-- Names alone, or with values and perhaps a type before them. -/
def constSpec (g : Rules) : Parser Node := do
  let start := (← peek).start
  let names ← commaSeparated g.limit .line (expectKind .name)
  let parts ←
    if ← follows .line "=" then do pure (roles "value" [← values g])
    else if (← continues .line) && (← atType) then do
      let type ← g.type .inside
      pure (type.withField "type" :: roles "value" [← values g])
    else pure []
  return inner "const_spec" start (roles "name" (names.map (leaf "identifier")) ++ parts)

/-- The specifications of a group. Each of them, the last one too, has a terminator. -/
def closedSpecs (limit : Nat) (p : Parser Node) : Parser (List Node) := do
  let specs ← collect limit do
    if ← isAt ")" then return none
    let spec ← p
    terminator
    return some spec
  let _ ← expect ")"
  return specs

/-- A declaration with one specification, or with a group of them. -/
def valueDeclaration (g : Rules) (word kind : String) (p : Parser Node) : Parser Node := do
  let start := (← expect word).start
  if ← accept "(" then return inner kind start (← closedSpecs g.limit p)
  return inner kind start [← p]

def varDeclaration (g : Rules) : Parser Node :=
  valueDeclaration g "var" "var_declaration" (varSpec g)

def constDeclaration (g : Rules) : Parser Node :=
  valueDeclaration g "const" "const_declaration" (constSpec g)

/-! ## Functions -/

/-- A function, or a method when a receiver stands before the name. The body may be left
out. -/
def functionDeclaration (g : Rules) : Parser Node := do
  let start := (← expect "func").start
  if ← isAt "(" then
    let receiver ← parameters g
    let name ← expectKind .name
    let parts ← signature g .line
    return inner "method_declaration" start
      ([receiver.withField "receiver", (leaf "field_identifier" name).withField "name"]
        ++ parts ++ role "body" (← when .line "\x7b" (block g)))
  let name ← expectKind .name
  let params ← when .inside "[" (typeParameters g)
  let parts ← signature g .line
  return inner "function_declaration" start
    ((leaf "identifier" name).withField "name" :: role "type_parameters" params
      ++ parts ++ role "body" (← when .line "\x7b" (block g)))

end SourceAtlas.Grammar
