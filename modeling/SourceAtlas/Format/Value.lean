-- The values that data formats carry, and checking a value against what is expected of
-- it. A check goes on after a finding, so that all findings are told at once, in the
-- order of the expected fields.
import SourceAtlas.Text.Lines
import SourceAtlas.Text.Quoted

namespace SourceAtlas

/-- A value of a data format. A table keeps its fields in the order in which they were
written. -/
inductive Value where
  | null
  | bool (b : Bool)
  | int (n : Int)
  /-- The number `mantissa * 10 ^ exponent`, written with a point or an exponent. -/
  | decimal (mantissa exponent : Int)
  /-- An infinity, or no number at all. -/
  | nonFinite
  | string (s : String)
  /-- A date, a time of day or both. -/
  | time (text : String)
  | list (items : List Value)
  | table (fields : List (String × Value))
  deriving Repr, Inhabited

namespace Value

/-- The value of a field. Of several fields of one name the last counts. -/
def lookup (fields : List (String × Value)) (name : String) : Option Value :=
  (fields.reverse.find? (·.1 == name)).map (·.2)

/-- The value of a field of a table. -/
def field? : Value → String → Option Value
  | table fields, name => lookup fields name
  | _, _ => none

/-- The whole number that a decimal number is, if it is one. -/
def integral? (mantissa exponent : Int) : Option Int :=
  if 0 ≤ exponent then some (mantissa * Int.pow 10 exponent.toNat)
  else
    let unit := Int.pow 10 (-exponent).toNat
    if mantissa % unit = 0 then some (mantissa / unit) else none

mutual
/-- All texts in a value, the names of fields among them. -/
def texts : Value → List String
  | string s => [s]
  | time text => [text]
  | list items => textsOfItems items
  | table fields => textsOfFields fields
  | _ => []
termination_by structural v => v

def textsOfItems : List Value → List String
  | [] => []
  | v :: vs => v.texts ++ textsOfItems vs
termination_by structural vs => vs

def textsOfFields : List (String × Value) → List String
  | [] => []
  | (name, v) :: fields => name :: (v.texts ++ textsOfFields fields)
termination_by structural fields => fields
end

end Value

/-! ## Checks -/

/-- One step of the way to a part of a value. -/
inductive Step where
  | field (name : String)
  | index (n : Nat)
  deriving DecidableEq, Repr, Inhabited

/-- What is wrong with a part of a value. -/
inductive Flaw where
  | missing
  | extra
  | notString
  | notList
  | notInt
  | unreadableInt
  /-- The text is a number with too many digits. -/
  | oversizedInt
  | fractionalInt
  | notBool
  | unreadableBool
  | notChoice (choices : List String)
  /-- The value should be a table with the fields of the named record. -/
  | notRecord (record : String)
  /-- The value should be a table, whatever its record is called. -/
  | notTable
  deriving DecidableEq, Repr, Inhabited

namespace Flaw

/-- The short name of a flaw. -/
def code : Flaw → String
  | missing => "missing"
  | extra => "extra_forbidden"
  | notString => "string_type"
  | notList => "list_type"
  | notInt => "int_type"
  | unreadableInt => "int_parsing"
  | oversizedInt => "int_parsing_size"
  | fractionalInt => "int_from_float"
  | notBool => "bool_type"
  | unreadableBool => "bool_parsing"
  | notChoice _ => "literal_error"
  | notRecord _ => "model_type"
  | notTable => "model_attributes_type"

/-- Texts in quotes, with commas between them and an "or" before the last. -/
def alternatives : List String → String
  | [] => ""
  | [a] => Text.quoted a
  | [a, b] => Text.quoted a ++ " or " ++ Text.quoted b
  | a :: rest => Text.quoted a ++ ", " ++ alternatives rest

def message : Flaw → String
  | missing => "Field required"
  | extra => "Extra inputs are not permitted"
  | notString => "Input should be a valid string"
  | notList => "Input should be a valid list"
  | notInt => "Input should be a valid integer"
  | unreadableInt => "Input should be a valid integer, unable to parse string as an integer"
  | oversizedInt => "Unable to parse input string as an integer, exceeded maximum size"
  | fractionalInt => "Input should be a valid integer, got a number with a fractional part"
  | notBool => "Input should be a valid boolean"
  | unreadableBool => "Input should be a valid boolean, unable to interpret input"
  | notChoice choices => "Input should be " ++ alternatives choices
  | notRecord record => "Input should be a valid dictionary or instance of " ++ record
  | notTable => "Input should be a valid dictionary or object to extract fields from"

end Flaw

/-- A flaw, the way to it, and the part of the value that it was found in. -/
structure Issue where
  loc : List Step := []
  flaw : Flaw
  input : Value
  deriving Repr, Inhabited

/-- The outcome of a check: a result, or all that was found wrong. -/
inductive Checked (α : Type) where
  | ok (a : α)
  | bad (issues : List Issue)
  deriving Inhabited

namespace Checked

def map {α β : Type} (f : α → β) : Checked α → Checked β
  | ok a => ok (f a)
  | bad issues => bad issues

/-- Both outcomes together. The findings of both are kept. -/
def both {α β : Type} : Checked α → Checked β → Checked (α × β)
  | ok a, ok b => ok (a, b)
  | ok _, bad issues => bad issues
  | bad issues, ok _ => bad issues
  | bad first, bad second => bad (first ++ second)

instance : Functor Checked := ⟨map, fun a c => map (fun _ => a) c⟩

/-- Findings add up from left to right. -/
instance : Applicative Checked where
  pure := ok
  seq f a := (both f (a ())).map fun (f, a) => f a

/-- Adds a step in front of the way to each finding. -/
def under {α : Type} (step : Step) : Checked α → Checked α
  | ok a => ok a
  | bad issues => bad (issues.map fun i => { i with loc := step :: i.loc })

end Checked

/-- A check of a value. -/
abbrev Check (α : Type) := Value → Checked α

namespace Check

/-- The findings of a single flaw in the value itself. -/
def reject {α : Type} (flaw : Flaw) (v : Value) : Checked α := .bad [{ flaw, input := v }]

def string : Check String
  | .string s => .ok s
  | v => reject .notString v

/-- A text or nothing. -/
def nullableString : Check (Option String)
  | .null => .ok none
  | .string s => .ok (some s)
  | v => reject .notString v

/-! ## Numbers as texts -/

/-- A character that a number goes on with after its leading zeros: a digit, or a minus
sign that the zeros did not keep out. -/
def startsNumber (c : Char) : Bool := ('1' ≤ c && c ≤ '9') || c == '-'

/-- The text without more leading zeros, and without underscores between them. A zero that
nothing follows but a point stays. `last` is the character that was passed last. -/
def dropMoreZeros (last : Char) : List Char → Option (List Char)
  | [] => some [last]
  | c :: cs =>
    if c == '0' || c == '_' then dropMoreZeros c cs
    else if startsNumber c then some (c :: cs)
    else if c == '.' then some (last :: c :: cs)
    else none

/-- The text without its leading zeros. `none` is a text that no number starts like. -/
def dropLeadingZeros : List Char → Option (List Char)
  | [] => none
  | c :: cs =>
    if c == '0' then dropMoreZeros c cs else if startsNumber c then some (c :: cs) else none

/-- The text without a point and the zeros after it. -/
def dropPointZeros (cs : List Char) : List Char :=
  let zeros := (cs.dropWhile (· != '.')).drop 1
  if !zeros.isEmpty && zeros.all (· == '0') then cs.takeWhile (· != '.') else cs

/-- Two underscores stand next to each other. -/
def hasDoubleUnderscore : List Char → Bool
  | '_' :: '_' :: _ => true
  | _ :: cs => hasDoubleUnderscore cs
  | [] => false

/-- The text without its underscores, if each of them stands alone between other
characters. -/
def dropUnderscores (cs : List Char) : List Char :=
  if cs.head? == some '_' || cs.getLast? == some '_' || hasDoubleUnderscore cs then cs
  else cs.filter (· != '_')

/-- The text without a plus sign in front. No second sign may follow it. -/
def dropPlus : List Char → Option (List Char)
  | '+' :: '-' :: _ => none
  | '+' :: cs => some cs
  | cs => some cs

/-- A whole number as a text: blanks around, a sign, digits, and perhaps a point with
zeros after it. -/
def readInt (s : String) : Except Flaw Int :=
  match (dropPlus (Text.trimChars Text.isWhite s.toList)).bind dropLeadingZeros with
  | none => .error .unreadableInt
  | some cs =>
    let number := dropUnderscores (dropPointZeros cs)
    let negative := number.head? == some '-'
    let digits := if negative then number.drop 1 else number
    if digits.isEmpty || !digits.all Char.isDigit then .error .unreadableInt
    else if Text.maxDigits < digits.length then .error .oversizedInt
    else if negative then .ok (-(Text.digitsValue digits : Int))
    else .ok (Text.digitsValue digits)

/-- A whole number. Texts that read as one count, and so do the truth values. -/
def int : Check Int
  | .int n => .ok n
  | .bool b => .ok (if b then 1 else 0)
  | .decimal m e =>
    match Value.integral? m e with
    | some n => .ok n
    | none => reject .fractionalInt (.decimal m e)
  | .string s =>
    match readInt s with
    | .ok n => .ok n
    | .error flaw => reject flaw (.string s)
  | v => reject .notInt v

def trueWords : List String := ["1", "on", "t", "true", "y", "yes"]

def falseWords : List String := ["0", "off", "f", "false", "n", "no"]

/-- A truth value. The usual words for one count, and so do zero and one. A number that
does not fit into 64 bits is nothing like a truth value. -/
def bool : Check Bool
  | .bool b => .ok b
  | .int n =>
    if n = 0 then .ok false
    else if n = 1 then .ok true
    else if -(Int.pow 2 63) ≤ n && n < Int.pow 2 63 then reject .unreadableBool (.int n)
    else reject .notBool (.int n)
  | .string s =>
    let word := String.ofList (s.toList.map Char.toLower)
    if trueWords.contains word then .ok true
    else if falseWords.contains word then .ok false
    else reject .unreadableBool (.string s)
  | v => reject .notBool v

/-- One of several words, each of which stands for something. -/
def choice {α : Type} (word : α → String) (choices : List α) (v : Value) : Checked α :=
  match v with
  | .string s =>
    match choices.find? fun a => word a == s with
    | some a => .ok a
    | none => reject (.notChoice (choices.map word)) v
  | _ => reject (.notChoice (choices.map word)) v

/-- The items of a list, checked one by one from the index `n` on. -/
def items {α : Type} (check : Check α) : Nat → List Value → Checked (List α)
  | _, [] => .ok []
  | n, v :: vs =>
    (((check v).under (.index n)).both (items check (n + 1) vs)).map fun (a, as) => a :: as

def list {α : Type} (check : Check α) : Check (List α)
  | .list vs => items check 0 vs
  | v => reject .notList v

/-- The fields of a table that stands for the named record. -/
def record {α : Type} (name : String) (check : List (String × Value) → Checked α) : Check α
  | .table fields => check fields
  | v => reject (.notRecord name) v

/-- A field that must be there. -/
def required {α : Type} (fields : List (String × Value)) (name : String) (check : Check α) :
    Checked α :=
  match Value.lookup fields name with
  | some v => (check v).under (.field name)
  | none => .bad [{ loc := [.field name], flaw := .missing, input := .table fields }]

/-- A field that has a default. -/
def optional {α : Type} (fields : List (String × Value)) (name : String) (default : α)
    (check : Check α) : Checked α :=
  match Value.lookup fields name with
  | some v => (check v).under (.field name)
  | none => .ok default

/-- Every field is one of the known ones. -/
def onlyKnown (fields : List (String × Value)) (known : List String) : Checked Unit :=
  match fields.filter fun f => !known.contains f.1 with
  | [] => .ok ()
  | extras =>
    .bad (extras.map fun f => { loc := [.field f.1], flaw := .extra, input := f.2 })

end Check

end SourceAtlas
