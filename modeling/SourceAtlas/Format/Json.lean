-- JSON: a writer that uses ASCII alone, and a reader.
import SourceAtlas.Format.Value
import SourceAtlas.Text.Basic

namespace SourceAtlas.Json

/-! ## Writing -/

/-- One UTF-16 unit as an escape. -/
def unitEscape (n : Nat) : List Char := '\\' :: 'u' :: Text.hex 4 n

/-- One character of a string. Control characters and everything beyond ASCII are
escaped, astral characters as two units. -/
def writeChar (c : Char) : List Char :=
  if c = '"' then ['\\', '"']
  else if c = '\\' then ['\\', '\\']
  else if c = '\n' then ['\\', 'n']
  else if c = '\r' then ['\\', 'r']
  else if c = '\t' then ['\\', 't']
  else if c = '\x0C' then ['\\', 'f']
  else if c = '\x08' then ['\\', 'b']
  else if 0x20 ≤ c.toNat ∧ c.toNat < 0x7f then [c]
  else if c.toNat < 0x10000 then unitEscape c.toNat
  else
    let offset := c.toNat - 0x10000
    unitEscape (0xD800 + offset / 0x400) ++ unitEscape (0xDC00 + offset % 0x400)

def writeString (s : String) : List Char := '"' :: s.toList.flatMap writeChar ++ ['"']

/-- A number, truth value or the like; the empty text for lists and tables. -/
def writeAtom : Value → List Char
  | .null => "null".toList
  | .bool true => "true".toList
  | .bool false => "false".toList
  | .int n => (toString n).toList
  | .decimal m e => (toString m ++ "e" ++ toString e).toList
  | .nonFinite => "null".toList
  | .string s => writeString s
  | .time text => writeString text
  | .list _ => []
  | .table _ => []

/-- A line break and the blanks of a level of nesting. -/
def newline (level : Nat) : List Char := '\n' :: List.replicate (2 * level) ' '

mutual
/-- A value over several lines, two blanks deeper for each level. -/
def writeIndented (level : Nat) : Value → List Char
  | .list [] => ['[', ']']
  | .list (v :: vs) =>
    '[' :: newline (level + 1) ++ writeIndented (level + 1) v
      ++ writeItems (level + 1) vs ++ newline level ++ [']']
  | .table [] => ['\x7b', '\x7d']
  | .table ((k, v) :: fs) =>
    '\x7b' :: newline (level + 1) ++ writeString k ++ [':', ' '] ++ writeIndented (level + 1) v
      ++ writeFields (level + 1) fs ++ newline level ++ ['\x7d']
  | .null => writeAtom .null
  | .bool b => writeAtom (.bool b)
  | .int n => writeAtom (.int n)
  | .decimal m e => writeAtom (.decimal m e)
  | .nonFinite => writeAtom .nonFinite
  | .string s => writeAtom (.string s)
  | .time text => writeAtom (.time text)
termination_by structural v => v

/-- The further items of a list, each after a comma and on a line of its own. -/
def writeItems (level : Nat) : List Value → List Char
  | [] => []
  | v :: vs => ',' :: newline level ++ writeIndented level v ++ writeItems level vs
termination_by structural vs => vs

/-- The further fields of a table, each after a comma and on a line of its own. -/
def writeFields (level : Nat) : List (String × Value) → List Char
  | [] => []
  | (k, v) :: fs =>
    ',' :: newline level ++ writeString k ++ [':', ' '] ++ writeIndented level v
      ++ writeFields level fs
termination_by structural fs => fs
end

/-- A value as indented text. -/
def write (v : Value) : String := String.ofList (writeIndented 0 v)

/-! ## Reading -/

def isSpace (c : Char) : Bool := c == ' ' || c == '\n' || c == '\r' || c == '\t'

def skipSpace (cs : List Char) : List Char := cs.dropWhile isSpace

/-- The character that a one-letter escape stands for. -/
def simpleEscape? : Char → Option Char
  | '"' => some '"'
  | '\\' => some '\\'
  | '/' => some '/'
  | 'b' => some '\x08'
  | 'f' => some '\x0C'
  | 'n' => some '\n'
  | 'r' => some '\r'
  | 't' => some '\t'
  | _ => none

/-- The character of a unit that stands alone. A surrogate alone stands for none. -/
def lone? (unit : Nat) : Option Char := Text.scalar? unit

/-- The character of two surrogates, the high one first. -/
def paired? (high low : Nat) : Option Char :=
  if 0xD800 ≤ high ∧ high < 0xDC00 ∧ 0xDC00 ≤ low ∧ low < 0xE000 then
    Text.scalar? (0x10000 + (high - 0xD800) * 0x400 + (low - 0xDC00))
  else none

/-- The rest of a string after its opening quote: its characters, and what follows the
closing quote. -/
def readChars : List Char → Option (List Char × List Char)
  | [] => none
  | '"' :: rest => some ([], rest)
  | '\\' :: 'u' :: a :: b :: c :: d :: '\\' :: 'u' :: e :: f :: g :: h :: rest =>
    match Text.hexNumber? [a, b, c, d] with
    | none => none
    | some first =>
      match (Text.hexNumber? [e, f, g, h]).bind (paired? first) with
      | some char => (readChars rest).map fun (cs, after) => (char :: cs, after)
      | none =>
        match lone? first with
        | none => none
        | some char =>
          (readChars ('\\' :: 'u' :: e :: f :: g :: h :: rest)).map fun (cs, after) =>
            (char :: cs, after)
  | '\\' :: 'u' :: a :: b :: c :: d :: rest =>
    match (Text.hexNumber? [a, b, c, d]).bind lone? with
    | none => none
    | some char => (readChars rest).map fun (cs, after) => (char :: cs, after)
  | '\\' :: c :: rest =>
    match simpleEscape? c with
    | none => none
    | some char => (readChars rest).map fun (cs, after) => (char :: cs, after)
  | c :: rest =>
    if c.toNat < 0x20 then none
    else (readChars rest).map fun (cs, after) => (c :: cs, after)

/-- A whole string, from its opening quote on. -/
def readString : List Char → Option (String × List Char)
  | '"' :: cs => (readChars cs).map fun (cs, after) => (String.ofList cs, after)
  | _ => none

/-- The digits at the front, and what follows them. -/
def spanDigits (cs : List Char) : List Char × List Char := cs.span Char.isDigit

/-- The exponent part of a number, if there is one. -/
def readExponent (cs : List Char) : Option (Option Int × List Char) :=
  match cs with
  | e :: rest =>
    if e = 'e' || e = 'E' then
      let (negative, rest) :=
        match rest with
        | '-' :: r => (true, r)
        | '+' :: r => (false, r)
        | r => (false, r)
      match spanDigits rest with
      | ([], _) => none
      | (ds, after) =>
        some (some (if negative then -(Text.digitsValue ds : Int) else Text.digitsValue ds), after)
    else some (none, cs)
  | [] => some (none, cs)

/-- A number. Whole numbers are those without point and exponent. -/
def readNumber (cs : List Char) : Option (Value × List Char) :=
  let (negative, body) :=
    match cs with
    | '-' :: rest => (true, rest)
    | rest => (false, rest)
  let sign : Int := if negative then -1 else 1
  match spanDigits body with
  | ([], _) => none
  | (whole, rest) =>
    if whole.length > 1 && whole.head? == some '0' then none
    else
      match rest with
      | '.' :: tail =>
        match spanDigits tail with
        | ([], _) => none
        | (part, after) =>
          (readExponent after).map fun (e, after) =>
            (.decimal (sign * Text.digitsValue (whole ++ part)) (e.getD 0 - part.length), after)
      | _ =>
        (readExponent rest).map fun (e, after) =>
          match e with
          | none => (.int (sign * Text.digitsValue whole), after)
          | some e => (.decimal (sign * Text.digitsValue whole) e, after)

mutual
/-- A value, with blanks before it. `fuel` bounds the depth and the length of what is
read. -/
def readValue : Nat → List Char → Option (Value × List Char)
  | 0, _ => none
  | fuel + 1, cs =>
    match skipSpace cs with
    | '"' :: rest => (readString ('"' :: rest)).map fun (s, after) => (.string s, after)
    | 'n' :: 'u' :: 'l' :: 'l' :: rest => some (.null, rest)
    | 't' :: 'r' :: 'u' :: 'e' :: rest => some (.bool true, rest)
    | 'f' :: 'a' :: 'l' :: 's' :: 'e' :: rest => some (.bool false, rest)
    | '[' :: rest =>
      match skipSpace rest with
      | ']' :: after => some (.list [], after)
      | inner => (readItems fuel inner).map fun (vs, after) => (.list vs, after)
    | '\x7b' :: rest =>
      match skipSpace rest with
      | '\x7d' :: after => some (.table [], after)
      | inner => (readFields fuel inner).map fun (fs, after) => (.table fs, after)
    | rest => readNumber rest

/-- The items of a list up to its closing bracket. -/
def readItems : Nat → List Char → Option (List Value × List Char)
  | 0, _ => none
  | fuel + 1, cs =>
    match readValue fuel cs with
    | none => none
    | some (v, rest) =>
      match skipSpace rest with
      | ',' :: more => (readItems fuel more).map fun (vs, after) => (v :: vs, after)
      | ']' :: after => some ([v], after)
      | _ => none

/-- The fields of a table up to its closing brace. -/
def readFields : Nat → List Char → Option (List (String × Value) × List Char)
  | 0, _ => none
  | fuel + 1, cs =>
    match readString (skipSpace cs) with
    | none => none
    | some (key, rest) =>
      match skipSpace rest with
      | ':' :: rest =>
        match readValue fuel rest with
        | none => none
        | some (v, rest) =>
          match skipSpace rest with
          | ',' :: more => (readFields fuel more).map fun (fs, after) => ((key, v) :: fs, after)
          | '\x7d' :: after => some ([(key, v)], after)
          | _ => none
      | _ => none
end

/-- The value that a text stands for, if it is JSON. -/
def read (s : String) : Option Value :=
  let cs := s.toList
  match readValue (2 * cs.length + 2) cs with
  | some (v, rest) => if (skipSpace rest).isEmpty then some v else none
  | none => none

end SourceAtlas.Json
