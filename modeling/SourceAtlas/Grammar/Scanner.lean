-- From a source text to its words. Blanks and comments are dropped; a word knows
-- whether a newline stands before it.
import SourceAtlas.Text.Lines
import SourceAtlas.Text.NameChar
import SourceAtlas.Tree.Node

namespace SourceAtlas.Grammar

inductive TokenKind where
  | name
  | int
  | float
  | imaginary
  | rune
  | string
  | rawString
  /-- A keyword, an operator or a punctuation mark. -/
  | fixed
  /-- A semicolon, or the zero character in its place. -/
  | semicolon
  | endOfSource
  deriving DecidableEq, Repr, Inhabited

structure Token where
  kind : TokenKind
  text : String
  start : Position
  /-- A newline stands before the word. -/
  fresh : Bool := false
  /-- The word has bytes that are no text. -/
  garbled : Bool := false
  deriving DecidableEq, Repr, Inhabited

/-- Words that are never names. -/
def keywords : List String :=
  ["break", "case", "chan", "const", "continue", "default", "defer", "else", "fallthrough",
   "for", "func", "go", "goto", "if", "import", "interface", "map", "package", "range",
   "return", "select", "struct", "switch", "type", "var"]

/-- Operators and punctuation marks, the longer ones first. -/
def marks : List String :=
  ["<<=", ">>=", "&^=", "...",
   "<<", ">>", "&^", "+=", "-=", "*=", "/=", "%=", "&=", "|=", "^=", "&&", "||", "<-", "++",
   "--", "==", "!=", "<=", ">=", ":=",
   "+", "-", "*", "/", "%", "&", "|", "^", "<", ">", "=", "!", "(", ")", "[", "]", "\x7b", "\x7d",
   ",", ".", ":", "~"]

/-- The position after some characters. -/
def advance (p : Position) : List Char → Position
  | [] => p
  | '\n' :: cs => advance ⟨p.row + 1, 0⟩ cs
  | _ :: cs => advance ⟨p.row, p.column + 1⟩ cs

/-! ## Numbers -/

/-- Digits and underscores of a number. -/
def isDecimalPart (c : Char) : Bool := c.isDigit || c == '_'

def isHexPart (c : Char) : Bool := (Text.hexValue? c).isSome || c == '_'

/-- Underscores stand between digits only. -/
def wellSpaced : List Char → Bool
  | [] => true
  | [c] => c != '_'
  | '_' :: '_' :: _ => false
  | _ :: cs => wellSpaced cs

/-- An exponent after one of the letters, if there is one. `none` is an exponent
without digits. -/
def spanExponent (letters : List Char) (cs : List Char) : Option (List Char × List Char) :=
  match cs with
  | e :: rest =>
    if letters.contains e then
      let (sign, digits) :=
        match rest with
        | '+' :: r => (['+'], r)
        | '-' :: r => (['-'], r)
        | r => ([], r)
      match digits.span isDecimalPart with
      | ([], _) => none
      | ('_' :: _, _) => none
      | (ds, after) => if wellSpaced ds then some (e :: sign ++ ds, after) else none
    else some ([], cs)
  | [] => some ([], cs)

/-- A mark for the imaginary unit turns any number into an imaginary one. -/
def closeNumber (kind : TokenKind) (lexeme rest : List Char) :
    TokenKind × List Char × List Char :=
  match rest with
  | 'i' :: after => (.imaginary, lexeme ++ ['i'], after)
  | _ => (kind, lexeme, rest)

/-- A hexadecimal number after its mark. A point asks for an exponent. -/
def scanHex (mark : List Char) (cs : List Char) : Option (TokenKind × List Char × List Char) :=
  let (whole, rest) := cs.span isHexPart
  let (point, rest) :=
    match rest with
    | '.' :: r =>
      let (part, after) := r.span isHexPart
      ('.' :: part, after)
    | r => ([], r)
  match spanExponent ['p', 'P'] rest with
  | none => none
  | some (exponent, rest) =>
    let digits := (whole ++ point.drop 1).filter (· != '_')
    if digits.isEmpty || (!point.isEmpty && exponent.isEmpty) || !wellSpaced whole
        || !wellSpaced (point.drop 1) then none
    else
      let kind : TokenKind := if point.isEmpty && exponent.isEmpty then .int else .float
      some (closeNumber kind (mark ++ whole ++ point ++ exponent) rest)

/-- A binary or octal number after its mark. -/
def scanBased (base : Nat) (mark : List Char) (cs : List Char) :
    Option (TokenKind × List Char × List Char) :=
  let (digits, rest) := cs.span isDecimalPart
  let plain := digits.filter (· != '_')
  if plain.isEmpty || !wellSpaced digits || plain.any (fun c => base ≤ c.toNat - '0'.toNat) then none
  else some (closeNumber .int (mark ++ digits) rest)

/-- A number in base ten. One that starts with a zero and goes on is in base eight,
unless it has a point, an exponent or the imaginary unit. -/
def scanDecimal (cs : List Char) : Option (TokenKind × List Char × List Char) :=
  let (whole, rest) := cs.span isDecimalPart
  let (point, rest) :=
    match rest with
    | '.' :: r =>
      let (part, after) := r.span isDecimalPart
      ('.' :: part, after)
    | r => ([], r)
  match spanExponent ['e', 'E'] rest with
  | none => none
  | some (exponent, rest) =>
    let part := point.drop 1
    if !wellSpaced whole || !wellSpaced part || part.head? == some '_' then none
    else
      let kind : TokenKind := if point.isEmpty && exponent.isEmpty then .int else .float
      let (kind, lexeme, after) := closeNumber kind (whole ++ point ++ exponent) rest
      let octal := kind == .int && whole.head? == some '0'
      if octal && whole.any (fun c => c == '8' || c == '9') then none
      else some (kind, lexeme, after)

def scanNumber (cs : List Char) : Option (TokenKind × List Char × List Char) :=
  match cs with
  | '0' :: m :: rest =>
    if m == 'x' || m == 'X' then scanHex ['0', m] rest
    else if m == 'b' || m == 'B' then scanBased 2 ['0', m] rest
    else if m == 'o' || m == 'O' then scanBased 8 ['0', m] rest
    else scanDecimal cs
  | _ => scanDecimal cs

/-! ## Runes and strings -/

/-- As many hexadecimal digits as an escape asks for. -/
def spanHexEscape (width : Nat) (cs : List Char) : Option (List Char × List Char) :=
  let digits := cs.take width
  if digits.length == width && (Text.hexNumber? digits).isSome then some (digits, cs.drop width)
  else none

/-- The rest of a numeric escape after its backslash, for the letters that start one. -/
def spanNumericEscape (cs : List Char) : Option (List Char × List Char) :=
  match cs with
  | 'x' :: rest => (spanHexEscape 2 rest).map fun (ds, after) => ('x' :: ds, after)
  | 'u' :: rest => (spanHexEscape 4 rest).map fun (ds, after) => ('u' :: ds, after)
  | 'U' :: rest => (spanHexEscape 8 rest).map fun (ds, after) => ('U' :: ds, after)
  | _ => none

/-- The rest of an escape in a string after its backslash. A character that starts no
numeric escape stands for itself, whatever it is. -/
def spanStringEscape (cs : List Char) : Option (List Char × List Char) :=
  match cs with
  | [] => none
  | c :: rest =>
    if ['x', 'u', 'U'].contains c then spanNumericEscape cs else some ([c], rest)

/-- The rest of an escape in a rune after its backslash: a number, or one of a few
characters. -/
def spanRuneEscape (cs : List Char) : Option (List Char × List Char) :=
  match cs with
  | [] => none
  | c :: rest =>
    if ['a', 'b', 'f', 'n', 'r', 't', 'v', '\\', '\x27', '"'].contains c then some ([c], rest)
    else
      let octal (d : Char) : Bool := '0' ≤ d && d ≤ '7'
      let digits := cs.take 3
      if digits.length == 3 && digits.all octal then some (digits, cs.drop 3)
      else spanNumericEscape cs

/-- The rest of a string up to its closing quote. It ends on the line it starts on, but
for newlines after a backslash. -/
def spanString : Nat → List Char → Option (List Char × List Char)
  | 0, _ => none
  | fuel + 1, cs =>
    match cs with
    | [] => none
    | '\n' :: _ => none
    | '"' :: rest => some (['"'], rest)
    | '\\' :: rest =>
      match spanStringEscape rest with
      | none => none
      | some (e, after) =>
        (spanString fuel after).map fun (more, after) => ('\\' :: e ++ more, after)
    | c :: rest => (spanString fuel rest).map fun (more, after) => (c :: more, after)

/-- The one character or escape of a rune. -/
def spanRune (cs : List Char) : Option (List Char × List Char) :=
  match cs with
  | [] => none
  | '\x27' :: _ => none
  | '\\' :: rest => (spanRuneEscape rest).map fun (e, after) => ('\\' :: e, after)
  | c :: rest => some ([c], rest)

def scanRune (cs : List Char) : Option (TokenKind × List Char × List Char) :=
  match spanRune cs with
  | some (c, '\x27' :: after) => some (.rune, '\x27' :: c ++ ['\x27'], after)
  | _ => none

def scanString (cs : List Char) : Option (TokenKind × List Char × List Char) :=
  (spanString (cs.length + 1) cs).map fun (body, after) => (.string, '"' :: body, after)

def scanRaw (cs : List Char) : Option (TokenKind × List Char × List Char) :=
  match cs.span (· != '\x60') with
  | (body, '\x60' :: after) => some (.rawString, '\x60' :: body ++ ['\x60'], after)
  | _ => none

/-! ## Words -/

/-- The operator or mark at the front. -/
def scanMark (cs : List Char) : Option (TokenKind × List Char × List Char) :=
  (marks.find? fun m => m.toList.isPrefixOf cs).map fun m =>
    (.fixed, m.toList, cs.drop m.length)

/-- The word at the front: its kind, its characters and what follows. -/
def scanWord (cs : List Char) : Option (TokenKind × List Char × List Char) :=
  match cs with
  | [] => none
  | '"' :: rest => scanString rest
  | '\x27' :: rest => scanRune rest
  | '\x60' :: rest => scanRaw rest
  | ';' :: rest => some (.semicolon, [';'], rest)
  | '\x00' :: rest => some (.semicolon, ['\x00'], rest)
  | c :: rest =>
    if Text.isNameStart c then
      let (word, after) := cs.span Text.isNamePart
      let kind := if keywords.contains (String.ofList word) then .fixed else .name
      some (kind, word, after)
    else if c.isDigit || (c == '.' && rest.head?.any Char.isDigit) then scanNumber cs
    else scanMark cs

/-- The rest of a comment over several lines, up to and with its end. -/
def spanBlockComment : List Char → Option (List Char × List Char)
  | [] => none
  | '*' :: '/' :: after => some (['*', '/'], after)
  | c :: cs => (spanBlockComment cs).map fun (body, after) => (c :: body, after)

/-- The words of a text. `fresh` says that a newline has been met since the last word. A
newline inside a comment does not count. `fuel` bounds the number of steps. A failure is a
position where no word starts. -/
def scanFrom : Nat → (fresh : Bool) → Position → List Char → Except Position (List Token)
  | 0, _, p, _ => .error p
  | fuel + 1, fresh, p, cs =>
    match cs with
    | [] => .ok [{ kind := .endOfSource, text := "", start := p, fresh }]
    | '\n' :: rest => scanFrom fuel true ⟨p.row + 1, 0⟩ rest
    | '/' :: '/' :: rest =>
      let (body, after) := rest.span (· != '\n')
      scanFrom fuel fresh (advance p ('/' :: '/' :: body)) after
    | '/' :: '*' :: rest =>
      match spanBlockComment rest with
      | none => .error p
      | some (body, after) => scanFrom fuel fresh (advance p ('/' :: '*' :: body)) after
    | c :: rest =>
      if Text.isWhite c then scanFrom fuel fresh ⟨p.row, p.column + 1⟩ rest
      else
        match scanWord cs with
        | none => .error p
        | some (kind, lexeme, after) =>
          (scanFrom fuel false (advance p lexeme) after).map
            ({ kind, text := String.ofList lexeme, start := p, fresh } :: ·)

/-- A byte order mark at the very start is no part of the text. -/
def dropMark : List Char → List Char
  | '\ufeff' :: cs => cs
  | cs => cs

/-- The words of a source text. -/
def scan (s : String) : Except Position (List Token) :=
  let cs := dropMark s.toList
  scanFrom (cs.length + 1) false {} cs

end SourceAtlas.Grammar
