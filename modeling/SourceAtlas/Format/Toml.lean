-- TOML 1.0: a reader that takes a whole document to a table, or refuses it.
import SourceAtlas.Format.Value
import SourceAtlas.Text.Basic

namespace SourceAtlas.Toml

/-- A table under construction. -/
abbrev Fields := List (String × Value)

/-- A dotted key. -/
abbrev Key := List String

/-- Why a document is refused. -/
inductive Refusal where
  | malformed
  /-- A number has more digits than can be read. Nothing after it is looked at. -/
  | oversized
  deriving DecidableEq, Repr, Inhabited

/-- What has been read and what follows it, or why nothing could be read. -/
abbrev Reading (α : Type) := Except Refusal (α × List Char)

/-- What is not there is malformed. -/
def require {α : Type} : Option α → Except Refusal α
  | some a => .ok a
  | none => .error .malformed

/-! ## Characters -/

def isBlank (c : Char) : Bool := c == ' ' || c == '\t'

def isBlankOrNewline (c : Char) : Bool := isBlank c || c == '\n'

/-- A control character that stands nowhere; newlines are looked at on their own. -/
def isControl (c : Char) : Bool := (c.toNat < 0x20 && c != '\t') || c.toNat == 0x7F

def isBareKeyChar (c : Char) : Bool :=
  ('a' ≤ c && c ≤ 'z') || ('A' ≤ c && c ≤ 'Z') || c.isDigit || c == '-' || c == '_'

def skipBlanks (cs : List Char) : List Char := cs.dropWhile isBlank

/-- Skips a comment up to the end of its line. -/
def skipComment (cs : List Char) : Option (List Char) :=
  match cs with
  | '#' :: rest =>
    let (body, after) := rest.span (· != '\n')
    if body.any isControl then none else some after
  | _ => some cs

/-- Skips blanks, newlines and comments; each round of `fuel` skips one comment. -/
def skipGaps : Nat → List Char → Option (List Char)
  | 0, cs => some cs
  | fuel + 1, cs =>
    match cs.dropWhile isBlankOrNewline with
    | '#' :: rest => (skipComment ('#' :: rest)).bind (skipGaps fuel)
    | rest => some rest

/-! ## Strings -/

/-- The character after `width` hexadecimal digits. -/
def readHexChar (width : Nat) (cs : List Char) : Option (Char × List Char) :=
  let digits := cs.take width
  if digits.length != width then none
  else ((Text.hexNumber? digits).bind Text.scalar?).map fun c => (c, cs.drop width)

/-- The character of an escape, given from after the backslash. -/
def readEscape : List Char → Option (Char × List Char)
  | 'b' :: rest => some ('\x08', rest)
  | 't' :: rest => some ('\t', rest)
  | 'n' :: rest => some ('\n', rest)
  | 'f' :: rest => some ('\x0C', rest)
  | 'r' :: rest => some ('\r', rest)
  | '"' :: rest => some ('"', rest)
  | '\\' :: rest => some ('\\', rest)
  | 'u' :: rest => readHexChar 4 rest
  | 'U' :: rest => readHexChar 8 rest
  | _ => none

/-- What follows a backslash that ends a line, if it does end one. -/
def joinLines? (cs : List Char) : Option (List Char) :=
  match cs.dropWhile isBlank with
  | '\n' :: rest => some (rest.dropWhile isBlankOrNewline)
  | _ => none

/-- The rest of a basic string after its opening quotes. -/
def readBasic (multiline : Bool) : Nat → List Char → Option (List Char × List Char)
  | 0, _ => none
  | fuel + 1, cs =>
    match cs with
    | [] => none
    | '"' :: rest =>
      if !multiline then some ([], rest)
      else
        match rest with
        | '"' :: '"' :: after => some ([], after)
        | _ => (readBasic multiline fuel rest).map fun (cs, after) => ('"' :: cs, after)
    | '\\' :: rest =>
      match (if multiline then joinLines? rest else none) with
      | some after => readBasic multiline fuel after
      | none =>
        match readEscape rest with
        | none => none
        | some (c, after) =>
          (readBasic multiline fuel after).map fun (cs, after) => (c :: cs, after)
    | c :: rest =>
      if isControl c && !(multiline && c == '\n') then none
      else (readBasic multiline fuel rest).map fun (cs, after) => (c :: cs, after)

/-- The rest of a literal string after its opening quotes. -/
def readLiteral (multiline : Bool) : List Char → Option (List Char × List Char)
  | [] => none
  | c :: rest =>
    if c == '\x27' && (!multiline || rest.take 2 == ['\x27', '\x27']) then
      some ([], if multiline then rest.drop 2 else rest)
    else if isControl c && !(multiline && c == '\n') then none
    else (readLiteral multiline rest).map fun (cs, after) => (c :: cs, after)

/-- Up to two more quotes after the closing ones belong to the string. -/
def closeMultiline (quote : Char) (cs : List Char) (rest : List Char) : List Char × List Char :=
  match rest with
  | a :: b :: after =>
    if a == quote && b == quote then (cs ++ [quote, quote], after)
    else if a == quote then (cs ++ [quote], b :: after)
    else (cs, rest)
  | [a] => if a == quote then (cs ++ [quote], []) else (cs, rest)
  | [] => (cs, rest)

/-- A newline right after the opening quotes is not part of the string. -/
def dropFirstNewline : List Char → List Char
  | '\n' :: rest => rest
  | cs => cs

/-- A string of any of the four kinds, from its opening quotes on. -/
def readString (cs : List Char) : Option (String × List Char) :=
  match cs with
  | '"' :: '"' :: '"' :: rest =>
    (readBasic true (rest.length + 1) (dropFirstNewline rest)).map fun (cs, after) =>
      let (cs, after) := closeMultiline '"' cs after
      (String.ofList cs, after)
  | '"' :: rest =>
    (readBasic false (rest.length + 1) rest).map fun (cs, after) => (String.ofList cs, after)
  | '\x27' :: '\x27' :: '\x27' :: rest =>
    (readLiteral true (dropFirstNewline rest)).map fun (cs, after) =>
      let (cs, after) := closeMultiline '\x27' cs after
      (String.ofList cs, after)
  | '\x27' :: rest => (readLiteral false rest).map fun (cs, after) => (String.ofList cs, after)
  | _ => none

/-! ## Keys -/

/-- One part of a dotted key. Strings over several lines are none. -/
def readKeyPart (cs : List Char) : Option (String × List Char) :=
  match cs with
  | '"' :: rest =>
    (readBasic false (rest.length + 1) rest).map fun (cs, after) => (String.ofList cs, after)
  | '\x27' :: rest => (readLiteral false rest).map fun (cs, after) => (String.ofList cs, after)
  | _ =>
    match cs.span isBareKeyChar with
    | ([], _) => none
    | (name, after) => some (String.ofList name, after)

/-- The further parts of a dotted key, each after a dot. -/
def readKeyParts : Nat → List Char → Option (Key × List Char)
  | 0, _ => none
  | fuel + 1, cs =>
    match readKeyPart cs with
    | none => none
    | some (part, rest) =>
      match skipBlanks rest with
      | '.' :: more =>
        (readKeyParts fuel (skipBlanks more)).map fun (parts, after) => (part :: parts, after)
      | after => some ([part], after)

/-- A dotted key, and what follows it and its blanks. -/
def readKey (cs : List Char) : Option (Key × List Char) := readKeyParts (cs.length + 1) cs

/-! ## Numbers, dates and times -/

/-- Digits of a class, perhaps with single underscores between them; the rest starts
where no further digit can be read. -/
def spanDigits (p : Char → Bool) : List Char → List Char × List Char
  | [] => ([], [])
  | [c] => if p c then ([c], []) else ([], [c])
  | c :: d :: rest =>
    if !p c then ([], c :: d :: rest)
    else if d == '_' && rest.head?.any p then
      let (ds, after) := spanDigits p rest
      (c :: ds, after)
    else
      let (ds, after) := spanDigits p (d :: rest)
      (c :: ds, after)

/-- The value of digits in a base. -/
def number (base : Nat) (cs : List Char) : Nat :=
  cs.foldl (fun n c => n * base + (Text.hexValue? c).getD 0) 0

/-- A whole number in base 16, 2 or 8, after its zero. -/
def readBased (cs : List Char) : Option (Value × List Char) :=
  let read (base : Nat) (p : Char → Bool) (rest : List Char) : Option (Value × List Char) :=
    match spanDigits p rest with
    | ([], _) => none
    | (ds, after) => some (.int (number base ds), after)
  match cs with
  | 'x' :: rest => read 16 (fun c => (Text.hexValue? c).isSome) rest
  | 'b' :: rest => read 2 (fun c => c == '0' || c == '1') rest
  | 'o' :: rest => read 8 (fun c => '0' ≤ c && c ≤ '7') rest
  | _ => none

/-- The part after the point, if there is one. -/
def readFraction (cs : List Char) : List Char × List Char :=
  match cs with
  | '.' :: rest =>
    match spanDigits Char.isDigit rest with
    | ([], _) => ([], cs)
    | (ds, after) => (ds, after)
  | _ => ([], cs)

/-- The exponent, if there is one. -/
def readExponent (cs : List Char) : Option Int × List Char :=
  match cs with
  | e :: rest =>
    if e == 'e' || e == 'E' then
      let (negative, body) :=
        match rest with
        | '-' :: r => (true, r)
        | '+' :: r => (false, r)
        | r => (false, r)
      match spanDigits Char.isDigit body with
      | ([], _) => (none, cs)
      | (ds, after) =>
        let n : Int := number 10 ds
        (some (if negative then -n else n), after)
    else (none, cs)
  | [] => (none, cs)

/-- A number in base ten, with a sign, a point or an exponent as it may be. A zero in
front stands alone. `none` is no number at all. -/
def readDecimal (cs : List Char) : Except Refusal (Option (Value × List Char)) :=
  let (negative, body) :=
    match cs with
    | '-' :: r => (true, r)
    | '+' :: r => (false, r)
    | r => (false, r)
  let sign : Int := if negative then -1 else 1
  let (whole, rest) :=
    match body with
    | '0' :: rest => (['0'], rest)
    | _ => spanDigits Char.isDigit body
  if whole.isEmpty then .ok none
  else
    let (part, rest) := readFraction rest
    let (exponent, rest) := readExponent rest
    if !part.isEmpty || exponent.isSome then
      let digits := number 10 (whole ++ part)
      .ok (some (.decimal (sign * digits) (exponent.getD 0 - part.length), rest))
    else if Text.maxDigits < whole.length then .error .oversized
    else .ok (some (.int (sign * number 10 whole), rest))

/-- A number. `none` is no number at all. -/
def readNumber (cs : List Char) : Except Refusal (Option (Value × List Char)) :=
  match cs with
  | '0' :: rest =>
    match readBased rest with
    | some found => .ok (some found)
    | none => readDecimal cs
  | _ => readDecimal cs

/-- Exactly `n` digits at the front, with their value. -/
def readFixed (n : Nat) (cs : List Char) : Option (Nat × List Char) :=
  let ds := cs.take n
  if ds.length == n && ds.all Char.isDigit then some (number 10 ds, cs.drop n) else none

/-- Exactly `n` digits between two bounds. -/
def readBetween (n low high : Nat) (cs : List Char) : Option (Nat × List Char) :=
  match readFixed n cs with
  | some (v, rest) => if low ≤ v && v ≤ high then some (v, rest) else none
  | none => none

def readMark (c : Char) (cs : List Char) : Option (List Char) :=
  match cs with
  | d :: rest => if c == d then some rest else none
  | [] => none

/-- A time of day; what follows it is given back. -/
def readClock (cs : List Char) : Option (List Char) := do
  let (_, cs) ← readBetween 2 0 23 cs
  let cs ← readMark ':' cs
  let (_, cs) ← readBetween 2 0 59 cs
  let cs ← readMark ':' cs
  let (_, cs) ← readBetween 2 0 59 cs
  match cs with
  | '.' :: rest =>
    match rest.span Char.isDigit with
    | ([], _) => some cs
    | (_, after) => some after
  | _ => some cs

/-- The distance to universal time, if it is given. -/
def skipOffset (cs : List Char) : List Char :=
  match cs with
  | 'Z' :: rest => rest
  | 'z' :: rest => rest
  | c :: rest =>
    if c == '+' || c == '-' then
      let offset : Option (List Char) := do
        let (_, rest) ← readBetween 2 0 23 rest
        let rest ← readMark ':' rest
        let (_, rest) ← readBetween 2 0 59 rest
        return rest
      offset.getD cs
    else cs
  | [] => cs

def isLeap (year : Nat) : Bool := (year % 4 == 0 && year % 100 != 0) || year % 400 == 0

def daysIn (year month : Nat) : Nat :=
  if month == 2 then (if isLeap year then 29 else 28)
  else if [4, 6, 9, 11].contains month then 30
  else 31

/-- The shape of a date at the front: year, month, day and what follows. -/
def readDate (cs : List Char) : Option (Nat × Nat × Nat × List Char) := do
  let (year, cs) ← readFixed 4 cs
  let cs ← readMark '-' cs
  let (month, cs) ← readBetween 2 1 12 cs
  let cs ← readMark '-' cs
  let (day, cs) ← readBetween 2 1 31 cs
  return (year, month, day, cs)

/-- What follows a date: perhaps a time of day and an offset. -/
def skipClock (cs : List Char) : List Char :=
  match cs with
  | c :: rest =>
    if c == 'T' || c == 't' || c == ' ' then
      match readClock rest with
      | some after => skipOffset after
      | none => cs
    else cs
  | [] => cs

/-- A moment between `cs` and what follows it. -/
def moment (cs after : List Char) : Value × List Char :=
  (.time (String.ofList (cs.take (cs.length - after.length))), after)

/-- A date or a time of day. `some none` is a date that no calendar has. -/
def readMoment (cs : List Char) : Option (Option (Value × List Char)) :=
  match readDate cs with
  | some (year, month, day, rest) =>
    if 1 ≤ year && day ≤ daysIn year month then some (some (moment cs (skipClock rest)))
    else some none
  | none => (readClock cs).map fun rest => some (moment cs rest)

/-! ## Values -/

/-- An infinity, or the word for what is no number. -/
def readNonFinite (cs : List Char) : Option (Value × List Char) :=
  match cs with
  | 'i' :: 'n' :: 'f' :: rest => some (.nonFinite, rest)
  | 'n' :: 'a' :: 'n' :: rest => some (.nonFinite, rest)
  | s :: 'i' :: 'n' :: 'f' :: rest =>
    if s == '+' || s == '-' then some (.nonFinite, rest) else none
  | s :: 'n' :: 'a' :: 'n' :: rest =>
    if s == '+' || s == '-' then some (.nonFinite, rest) else none
  | _ => none

/-- A value without parts. -/
def readAtom (cs : List Char) : Reading Value :=
  match cs with
  | '"' :: _ => require ((readString cs).map fun (s, rest) => (.string s, rest))
  | '\x27' :: _ => require ((readString cs).map fun (s, rest) => (.string s, rest))
  | 't' :: 'r' :: 'u' :: 'e' :: rest => .ok (.bool true, rest)
  | 'f' :: 'a' :: 'l' :: 's' :: 'e' :: rest => .ok (.bool false, rest)
  | _ =>
    match readMoment cs with
    | some found => require found
    | none =>
      match readNumber cs with
      | .error refusal => .error refusal
      | .ok (some found) => .ok found
      | .ok none => require (readNonFinite cs)

/-- A list or a table: what is written in one go and cannot be added to. -/
def isClosed : Value → Bool
  | .list _ => true
  | .table _ => true
  | _ => false

/-- The value of the first field of a name. -/
def get? (fields : Fields) (name : String) : Option Value :=
  (fields.find? (·.1 == name)).map (·.2)

/-- Puts a value under a name, in place or at the end. -/
def put (fields : Fields) (name : String) (v : Value) : Fields :=
  match fields with
  | [] => [(name, v)]
  | f :: fs => if f.1 == name then (name, v) :: fs else f :: put fs name v

/-- Changes the table at the end of a key. Tables on the way are made where there is
nothing; with `lists`, a list on the way stands for its last table. -/
def alterAt (lists : Bool) (change : Fields → Option Fields) : Key → Fields → Option Fields
  | [], fields => change fields
  | k :: ks, fields =>
    match get? fields k with
    | none => (alterAt lists change ks []).map fun inner => put fields k (.table inner)
    | some (.table inner) =>
      (alterAt lists change ks inner).map fun inner => put fields k (.table inner)
    | some (.list items) =>
      match lists, items.getLast? with
      | true, some (.table inner) =>
        (alterAt lists change ks inner).map fun inner =>
          put fields k (.list (items.dropLast ++ [.table inner]))
      | _, _ => none
    | some _ => none

/-- Adds a new field to a table. -/
def addField (name : String) (v : Value) (fields : Fields) : Option Fields :=
  if (get? fields name).isSome then none else some (fields ++ [(name, v)])

/-- One of the keys is a beginning of `key`. -/
def coveredBy (closed : List Key) (key : Key) : Bool := closed.any (·.isPrefixOf key)

mutual
/-- A value. `fuel` bounds the depth and the length of what is read. -/
def readValue : Nat → List Char → Reading Value
  | 0, _ => .error .malformed
  | fuel + 1, cs =>
    match cs with
    | '[' :: rest =>
      match skipGaps rest.length rest with
      | none => .error .malformed
      | some (']' :: after) => .ok (.list [], after)
      | some inner => (readItems fuel inner).map fun (vs, after) => (.list vs, after)
    | '\x7b' :: rest =>
      match skipBlanks rest with
      | '\x7d' :: after => .ok (.table [], after)
      | inner => (readInline fuel [] [] inner).map fun (fs, after) => (.table fs, after)
    | _ => readAtom cs

/-- The items of a list up to its closing bracket. -/
def readItems : Nat → List Char → Reading (List Value)
  | 0, _ => .error .malformed
  | fuel + 1, cs =>
    match readValue fuel cs with
    | .error refusal => .error refusal
    | .ok (v, rest) =>
      match skipGaps rest.length rest with
      | some (']' :: after) => .ok ([v], after)
      | some (',' :: more) =>
        match skipGaps more.length more with
        | some (']' :: after) => .ok ([v], after)
        | some inner => (readItems fuel inner).map fun (vs, after) => (v :: vs, after)
        | none => .error .malformed
      | _ => .error .malformed

/-- The fields of a table on one line up to its closing brace. `closed` holds the keys
that cannot be added to. -/
def readInline : Nat → List Key → Fields → List Char → Reading Fields
  | 0, _, _, _ => .error .malformed
  | fuel + 1, closed, fields, cs =>
    match readKey cs with
    | some (key, '=' :: rest) =>
      match readValue fuel (skipBlanks rest) with
      | .error refusal => .error refusal
      | .ok (v, rest) =>
        if coveredBy closed key then .error .malformed
        else
          match alterAt false (addField (key.getLast?.getD "") v) key.dropLast fields with
          | none => .error .malformed
          | some fields =>
            match skipBlanks rest with
            | '\x7d' :: after => .ok (fields, after)
            | ',' :: more =>
              let closed := if isClosed v then key :: closed else closed
              readInline fuel closed fields (skipBlanks more)
            | _ => .error .malformed
    | _ => .error .malformed
end

/-! ## Documents -/

/-- A document that is being read. -/
structure Draft where
  fields : Fields := []
  /-- The table that key lines belong to. -/
  header : Key := []
  /-- Tables that no further header may open. -/
  opened : List Key := []
  /-- Tables that dotted keys have made since the last header. -/
  pending : List Key := []
  /-- Values that cannot be added to. -/
  closed : List Key := []

namespace Draft

/-- What dotted keys have made counts as opened from the next header on. -/
def settle (d : Draft) : Draft := { d with opened := d.pending ++ d.opened, pending := [] }

/-- A header that opens a table. -/
def openTable (d : Draft) (key : Key) : Option Draft :=
  if d.opened.contains key || coveredBy d.closed key then none
  else
    (alterAt true some key d.fields).map fun fields =>
      { d with fields, header := key, opened := key :: d.opened }

/-- Adds a new table to the list under a name. -/
def appendTable (name : String) (fields : Fields) : Option Fields :=
  match get? fields name with
  | none => some (fields ++ [(name, .list [.table []])])
  | some (.list items) => some (put fields name (.list (items ++ [.table []])))
  | some _ => none

/-- A header that opens the next table of a list. What was said below that list before
does not count any more. -/
def openItem (d : Draft) (key : Key) : Option Draft :=
  if coveredBy d.closed key then none
  else
    let forget (keys : List Key) : List Key := keys.filter fun k => !key.isPrefixOf k
    (alterAt true (appendTable (key.getLast?.getD "")) key.dropLast d.fields).map fun fields =>
      { d with fields, header := key, opened := key :: forget d.opened, closed := forget d.closed }

/-- The keys of the tables that a dotted key leads through. -/
def ways (header key : Key) : List Key :=
  (List.range (key.length - 1)).map fun i => header ++ key.take (i + 1)

/-- A line with a key and a value. -/
def addPair (d : Draft) (key : Key) (v : Value) : Option Draft :=
  let ways := ways d.header key
  let parent := d.header ++ key.dropLast
  if ways.any d.opened.contains then none
  else if !parent.isEmpty && coveredBy d.closed parent then none
  else
    (alterAt true (addField (key.getLast?.getD "") v) parent d.fields).map fun fields =>
      { d with
        fields
        pending := ways ++ d.pending
        closed := if isClosed v then (d.header ++ key) :: d.closed else d.closed }

end Draft

/-- One statement: a header or a line with a key. -/
def readStatement (d : Draft) (cs : List Char) : Reading Draft :=
  match cs with
  | '[' :: '[' :: rest =>
    match readKey (skipBlanks rest) with
    | some (key, ']' :: ']' :: after) =>
      (require (d.settle.openItem key)).map fun d => (d, after)
    | _ => .error .malformed
  | '[' :: rest =>
    match readKey (skipBlanks rest) with
    | some (key, ']' :: after) => (require (d.settle.openTable key)).map fun d => (d, after)
    | _ => .error .malformed
  | _ =>
    match readKey cs with
    | some (key, '=' :: rest) =>
      let rest := skipBlanks rest
      match readValue (2 * rest.length + 2) rest with
      | .ok (v, after) => (require (d.addPair key v)).map fun d => (d, after)
      | .error refusal => .error refusal
    | _ => .error .malformed

/-- The statements of a document, line by line. -/
def readLines : Nat → Draft → List Char → Except Refusal Draft
  | 0, d, _ => .ok d
  | fuel + 1, d, cs =>
    match skipBlanks cs with
    | [] => .ok d
    | '\n' :: rest => readLines fuel d rest
    | c :: rest =>
      let statement := if c == '#' then .ok (d, c :: rest) else readStatement d (c :: rest)
      match statement with
      | .error refusal => .error refusal
      | .ok (d, after) =>
        match skipComment (skipBlanks after) with
        | some [] => .ok d
        | some ('\n' :: rest) => readLines fuel d rest
        | _ => .error .malformed

/-- A return before a newline is dropped. -/
def dropReturns : List Char → List Char
  | [] => []
  | '\r' :: '\n' :: cs => '\n' :: dropReturns cs
  | c :: cs => c :: dropReturns cs

/-- The table that a document stands for. -/
def read (s : String) : Except Refusal Fields :=
  let cs := dropReturns s.toList
  (readLines (cs.length + 1) {} cs).map (·.fields)

end SourceAtlas.Toml
