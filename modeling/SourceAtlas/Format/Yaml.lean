-- YAML texts of graphs. Every value is a string; the writer picks the plainest of
-- three styles that reads back as the same string, and folds long lines at blanks.
import SourceAtlas.Graph.Basic
import SourceAtlas.Text.Basic
import SourceAtlas.Text.Pattern

namespace SourceAtlas.Yaml

/-! ## Plain texts that would read as something else -/

open Text.Pattern in
/-- Digits with underscores between and after them. -/
def spacedDigits : Text.Pattern := seq digit (many (one fun c => c.isDigit || c == '_'))

open Text.Pattern in
def sign : Text.Pattern := maybe (oneOf "+-")

open Text.Pattern in
/-- Further places in base sixty. -/
def sixties : Text.Pattern := some (inOrder [char ':', maybe (oneOf "012345"), digit])

open Text.Pattern in
def exponent : Text.Pattern := maybe (inOrder [oneOf "eE", oneOf "+-", some digit])

open Text.Pattern in
def boolWords : Text.Pattern :=
  anyOf
    (["yes", "Yes", "YES", "no", "No", "NO", "true", "True", "TRUE", "false", "False", "FALSE",
      "on", "On", "ON", "off", "Off", "OFF"].map word)

open Text.Pattern in
def nullWords : Text.Pattern := anyOf (["~", "null", "Null", "NULL", ""].map word)

open Text.Pattern in
/-- The merge key and the value key. -/
def specialKeys : Text.Pattern := anyOf (["<<", "="].map word)

open Text.Pattern in
def floats : Text.Pattern :=
  let places := many (one fun c => c.isDigit || c == '_')
  anyOf
    [inOrder [sign, spacedDigits, char '.', places, exponent],
     inOrder [char '.', spacedDigits, exponent],
     inOrder [sign, spacedDigits, sixties, char '.', places],
     inOrder [sign, char '.', anyOf (["inf", "Inf", "INF"].map word)],
     inOrder [char '.', anyOf (["nan", "NaN", "NAN"].map word)]]

open Text.Pattern in
def ints : Text.Pattern :=
  let high := seq (oneOf "123456789") (many (one fun c => c.isDigit || c == '_'))
  inOrder
    [sign,
     anyOf
      [inOrder [word "0b", some (oneOf "01_")],
       inOrder [char '0', some (oneOf "01234567_")],
       char '0',
       high,
       inOrder [word "0x", some (oneOf "0123456789abcdefABCDEF_")],
       inOrder [high, sixties]]]

open Text.Pattern in
def timestamps : Text.Pattern :=
  let year := times 4 digit
  let short := seq digit (maybe digit)
  let blanks := oneOf " \t"
  let zone := alt (char 'Z') (inOrder [oneOf "+-", short, maybe (seq (char ':') (times 2 digit))])
  anyOf
    [inOrder [year, char '-', times 2 digit, char '-', times 2 digit],
     inOrder
      [year, char '-', short, char '-', short, alt (oneOf "Tt") (some blanks), short,
       char ':', times 2 digit, char ':', times 2 digit, maybe (seq (char '.') (many digit)),
       maybe (seq (many blanks) zone)]]

/-- The plain text reads as something other than a string. -/
def readsAsOther (cs : List Char) : Bool :=
  [boolWords, floats, ints, specialKeys, nullWords, timestamps].any (·.matchesAll cs)

/-! ## The style of a string -/

def isBreak (c : Char) : Bool :=
  c == '\n' || c == '\x85' || c == '\u2028' || c == '\u2029'

/-- Blanks and breaks, as the indicators around them see it. -/
def isGap (c : Char) : Bool :=
  c == '\x00' || c == ' ' || c == '\t' || c == '\r' || isBreak c

/-- A character that only double quotes can hold. -/
def isSpecial (c : Char) : Bool :=
  let n := c.toNat
  !(c == '\n' || (0x20 ≤ n && n ≤ 0x7E))
    && !((c == '\x85' || (0xA0 ≤ n && n ≤ 0xD7FF) || (0xE000 ≤ n && n ≤ 0xFFFD)
          || (0x10000 ≤ n && n < 0x10FFFF)) && c != '\ufeff')

/-- A break comes right before a blank. -/
def breakBeforeBlank : List Char → Bool
  | a :: b :: cs => (isBreak a && b == ' ') || breakBeforeBlank (b :: cs)
  | _ => false

/-- A blank comes right before a break. -/
def blankBeforeBreak : List Char → Bool
  | a :: b :: cs => (a == ' ' && isBreak b) || blankBeforeBreak (b :: cs)
  | _ => false

/-- The text ends or goes on with a gap. -/
def gapNext : List Char → Bool
  | [] => true
  | c :: _ => isGap c

/-- Inside a plain text: a colon before a gap, or a number sign after one. -/
def innerIndicator : Char → List Char → Bool
  | _, [] => false
  | before, c :: cs =>
    (c == ':' && gapNext cs) || (c == '#' && isGap before) || innerIndicator c cs

/-- The text has a part that means something in YAML. -/
def hasIndicator : List Char → Bool
  | [] => false
  | c :: cs =>
    Text.startsWith (String.ofList (c :: cs)) "---" || Text.startsWith (String.ofList (c :: cs)) "..."
      || "#,[]\x7b\x7d&*!|>\x27\"%@\x60".toList.contains c
      || ((c == '?' || c == ':' || c == '-') && gapNext cs)
      || innerIndicator c cs

/-- The text starts or ends with a blank or a break. -/
def hasLooseEnd (cs : List Char) : Bool :=
  let loose (c : Option Char) : Bool := c.any fun c => c == ' ' || isBreak c
  loose cs.head? || loose cs.getLast?

/-- How a string is written. -/
inductive Style where
  | plain
  | single
  | double
  deriving DecidableEq, Repr, Inhabited

def allowsSingle (cs : List Char) : Bool :=
  !breakBeforeBlank cs && !blankBeforeBreak cs && !cs.any isSpecial

def allowsPlain (cs : List Char) : Bool :=
  allowsSingle cs && !hasLooseEnd cs && !cs.any isBreak && !hasIndicator cs && !readsAsOther cs

/-- The plainest style that the string allows. -/
def style (cs : List Char) : Style :=
  if allowsPlain cs then .plain else if allowsSingle cs then .single else .double

/-! ## Writing a string -/

/-- A line may be folded once it is longer than this. -/
def width : Nat := 80

/-- Folded lines and lines after a break are indented by this much. -/
def indent : Nat := 4

def continuation : List Char := List.replicate indent ' '

/-- A string without quotes. `column` is where the next character goes. A single blank
beyond the width becomes a new line; `alone` says that the character before the blank
was none. -/
def writePlain (column : Nat) (alone : Bool) : List Char → List Char
  | [] => []
  | c :: cs =>
    if c == ' ' && alone && cs.head? != some ' ' && width < column then
      '\n' :: continuation ++ writePlain indent true cs
    else c :: writePlain (column + 1) (c != ' ') cs

/-- A string between single quotes, from after the opening one on. A blank folds only
between two other characters, a newline is written twice when it is the first of its
run, and a quote is always written twice. `before` is the character before. -/
def writeSingle (column : Nat) (before : Option Char) : List Char → List Char
  | [] => if before.any isBreak then continuation ++ ['\x27'] else ['\x27']
  | c :: cs =>
    let opensLine := before.any isBreak && !isBreak c
    let lead := if opensLine then continuation else []
    let column := if opensLine then indent else column
    if isBreak c then
      let run := if c == '\n' && !before.any isBreak then ['\n', c] else [c]
      run ++ writeSingle 0 (some c) cs
    else if c == ' ' then
      if before.any (· != ' ') && cs.head?.any (· != ' ') && width < column then
        lead ++ '\n' :: continuation ++ writeSingle indent (some c) cs
      else lead ++ c :: writeSingle (column + 1) (some c) cs
    else if c == '\x27' then lead ++ c :: c :: writeSingle (column + 2) (some c) cs
    else lead ++ c :: writeSingle (column + 1) (some c) cs

/-- The letter that stands for a character after a backslash. -/
def escapeLetter? : Char → Option Char
  | '\x00' => some '0'
  | '\x07' => some 'a'
  | '\x08' => some 'b'
  | '\t' => some 't'
  | '\n' => some 'n'
  | '\x0B' => some 'v'
  | '\x0C' => some 'f'
  | '\r' => some 'r'
  | '\x1B' => some 'e'
  | '"' => some '"'
  | '\\' => some '\\'
  | '\x85' => some 'N'
  | '\xA0' => some '_'
  | '\u2028' => some 'L'
  | '\u2029' => some 'P'
  | _ => none

/-- The character cannot stand as itself between double quotes. -/
def needsEscape (c : Char) : Bool :=
  let n := c.toNat
  c == '"' || c == '\\' || c == '\x85' || c == '\u2028' || c == '\u2029' || c == '\ufeff'
    || !((0x20 ≤ n && n ≤ 0x7E) || (0xA0 ≤ n && n ≤ 0xD7FF) || (0xE000 ≤ n && n ≤ 0xFFFD))

def upperHex (size : Nat) (n : Nat) : List Char := (Text.hex size n).map Char.toUpper

def escape (c : Char) : List Char :=
  match escapeLetter? c with
  | some letter => ['\\', letter]
  | none =>
    if c.toNat ≤ 0xFF then '\\' :: 'x' :: upperHex 2 c.toNat
    else if c.toNat ≤ 0xFFFF then '\\' :: 'u' :: upperHex 4 c.toNat
    else '\\' :: 'U' :: upperHex 8 c.toNat

/-- A fold between double quotes: the line ends in a backslash, and a blank that starts
the next line is marked by one. -/
def doubleFold (next : Option Char) : List Char :=
  '\\' :: '\n' :: continuation ++ if next == some ' ' then ['\\'] else []

/-- The column after a fold. -/
def afterFold (next : Option Char) : Nat := if next == some ' ' then indent + 1 else indent

/-- A string between double quotes, from after the opening one on. A line may fold
before a blank, and before and after an escape. `first` says that the character is the
first one, `escaped` that the one before it was escaped. -/
def writeDouble (column : Nat) (first escaped : Bool) : List Char → List Char
  | [] => ['"']
  | c :: cs =>
    let inside := !first && !cs.isEmpty
    if needsEscape c then
      let column := column + (escape c).length
      if inside && width < column - 1 then
        escape c ++ doubleFold cs.head? ++ writeDouble (afterFold cs.head?) false true cs
      else escape c ++ writeDouble column false true cs
    else if inside && (c == ' ' || escaped) && width < column then
      doubleFold (some c) ++ c :: writeDouble (afterFold (some c) + 1) false false cs
    else c :: writeDouble (column + 1) false false cs

/-- A string after its key. `column` is where the key's colon ends. -/
def writeString (column : Nat) (s : String) : List Char :=
  let cs := s.toList
  match style cs with
  | .plain => ' ' :: writePlain (column + 1) false cs
  | .single => ' ' :: '\x27' :: writeSingle (column + 2) none cs
  | .double => ' ' :: '"' :: writeDouble (column + 2) true false cs

/-! ## Writing a graph -/

/-- A key with its value on a line. -/
def writeField (lead key value : String) : List Char :=
  let head := lead ++ key ++ ":"
  head.toList ++ writeString head.length value ++ ['\n']

/-- Fields of one list item: the first stands after a dash. -/
def writeItem : List (String × String) → List Char
  | [] => []
  | (key, value) :: rest =>
    writeField "- " key value ++ rest.flatMap fun (key, value) => writeField "  " key value

/-- A named list of items. -/
def writeList (name : String) (items : List (List (String × String))) : List Char :=
  if items.isEmpty then (name ++ ": []\n").toList
  else (name ++ ":\n").toList ++ items.flatMap writeItem

def componentFields (c : Component) : List (String × String) :=
  [("id", c.id), ("title", c.title), ("entity", c.entity.word)]

def linkFields (l : Link) : List (String × String) :=
  [("from", l.source), ("to", l.target), ("type", l.kind.word)]
    ++ match l.method with
      | some m => [("method", m)]
      | none => []

/-- The YAML text of a graph. -/
def write (g : Graph) : String :=
  String.ofList
    (writeList "components" (g.components.map componentFields)
      ++ writeList "links" (g.links.map linkFields))

end SourceAtlas.Yaml
