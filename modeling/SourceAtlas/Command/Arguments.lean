-- Reading a command line: which words are options, which values belong to them, and
-- which words are left for operands. What the options mean is decided elsewhere; here a
-- command line only becomes a list of events, in the order in which they happen.
import SourceAtlas.Text.Quoted

namespace SourceAtlas

/-- An option: the names that it can be given by, and whether a value belongs to it. -/
structure Flag where
  names : List String
  takesValue : Bool := false
  deriving DecidableEq, Repr, Inhabited

/-- What an option is called in messages. -/
def Flag.title (f : Flag) : String := String.intercalate "/" f.names

/-- How a command line can be wrong. -/
inductive Misuse where
  | ambiguous (text : String) (candidates : List String)
  | missingValue (argument : String)
  | unusedValue (argument value : String)
  | notAChoice (argument value : String) (choices : List String)
  | notAnInt (argument value : String)
  | missingArgument (argument : String)
  | unrecognized (texts : List String)
  deriving DecidableEq, Repr, Inhabited

def Misuse.message : Misuse → String
  | ambiguous text candidates =>
    "ambiguous option: " ++ text ++ " could match " ++ String.intercalate ", " candidates
  | missingValue argument => "argument " ++ argument ++ ": expected one argument"
  | unusedValue argument value =>
    "argument " ++ argument ++ ": ignored explicit argument " ++ Text.quoted value
  | notAChoice argument value choices =>
    "argument " ++ argument ++ ": invalid choice: " ++ Text.quoted value ++ " (choose from "
      ++ String.intercalate ", " (choices.map Text.quoted) ++ ")"
  | notAnInt argument value =>
    "argument " ++ argument ++ ": invalid int value: " ++ Text.quoted value
  | missingArgument argument => "the following arguments are required: " ++ argument
  | unrecognized texts => "unrecognized arguments: " ++ String.intercalate " " texts

namespace Arguments

/-- The operand of a command: none, a single word, or a word with all that follows it. -/
inductive Operand where
  | none
  | single
  | rest
  deriving DecidableEq, Repr, Inhabited

/-- What a command accepts. -/
structure Shape where
  flags : List Flag
  operand : Operand := .none
  deriving Repr, Inhabited

/-! ## Words -/

/-- An option as it was written, perhaps with a text attached to it within the same
word. -/
structure Use where
  flag : Flag
  name : String
  attached : Option String := none
  deriving DecidableEq, Repr, Inhabited

/-- What one word of a command line is taken for. -/
inductive Word where
  | option (text : String) (use : Use)
  /-- It looks like an option, but there is none of that name. -/
  | unknown (text : String)
  | operand (text : String)
  /-- The word after which there are no more options. -/
  | divider
  deriving DecidableEq, Repr, Inhabited

def dividerText : String := "--"

def Word.text : Word → String
  | option text _ => text
  | unknown text => text
  | operand text => text
  | divider => dividerText

/-- All names of options, each with its option. -/
def named (flags : List Flag) : List (String × Flag) :=
  flags.flatMap fun f => f.names.map fun name => (name, f)

/-- The option of exactly that name. -/
def byName? (flags : List Flag) (name : String) : Option Flag :=
  ((named flags).find? fun e => e.1 == name).map (·.2)

/-- The part before the first equals sign, and the part after it if there is one. -/
def splitEquals (text : String) : String × Option String :=
  let (before, after) := text.toList.span (· != '=')
  (String.ofList before, after.tail?.map String.ofList)

/-- Two dashes start a long name. -/
def isLong (text : String) : Bool := Text.startsWith text dividerText

/-- Digits after a dash, perhaps with a point before the last of them. A newline may end
the text. -/
def isNegativeNumber (text : String) : Bool :=
  let digits (cs : List Char) : Bool := !cs.isEmpty && cs.all Text.isDecimalDigit
  match text.toList with
  | '-' :: cs =>
    let body := if cs.getLast? == some '\n' then cs.dropLast else cs
    match body.span (· != '.') with
    | (whole, []) => digits whole
    | (whole, _ :: part) => whole.all Text.isDecimalDigit && digits part
  | _ => false

/-- The ways to read a word as an option that is not written out: a long name may be cut
short, and a value may follow a short name at once. -/
def readings (flags : List Flag) (text : String) : List Use :=
  if isLong text then
    let (start, value) := splitEquals text
    ((named flags).filter fun e => Text.startsWith e.1 start).map fun (name, flag) =>
      { flag, name, attached := value }
  else
    let short := String.ofList (text.toList.take 2)
    ((named flags).filter fun e => e.1 == short).map fun (name, flag) =>
      { flag, name, attached := some (String.ofList (text.toList.drop 2)) }

/-- What a word is that no name explains. -/
def unexplained (text : String) : Word :=
  if isNegativeNumber text || text.toList.contains ' ' then .operand text else .unknown text

/-- What a word that starts with a dash and goes on is taken for. -/
def dashed (flags : List Flag) (text : String) : Except Misuse Word :=
  match splitEquals text with
  | (name, some value) =>
    match byName? flags name with
    | some flag => .ok (.option text { flag, name, attached := some value })
    | none => abbreviated
  | (_, none) => abbreviated
where
  abbreviated : Except Misuse Word :=
    match readings flags text with
    | [] => .ok (unexplained text)
    | [use] => .ok (.option text use)
    | uses => .error (.ambiguous text (uses.map (·.name)))

/-- What a word before the divider is taken for. -/
def classify (flags : List Flag) (text : String) : Except Misuse Word :=
  match text.toList with
  | '-' :: rest =>
    match byName? flags text with
    | some flag => .ok (.option text { flag, name := text })
    | none => if rest.isEmpty then .ok (.operand text) else dashed flags text
  | _ => .ok (.operand text)

/-- What all words of a command line are taken for. -/
def words (flags : List Flag) : List String → Except Misuse (List Word)
  | [] => .ok []
  | text :: rest =>
    if text = dividerText then .ok (.divider :: rest.map .operand)
    else
      match classify flags text with
      | .error misuse => .error misuse
      | .ok word => (words flags rest).map (word :: ·)

/-! ## Events -/

/-- What a command line asks for, bit by bit. -/
inductive Event where
  | flag (f : Flag) (value : Option String)
  | operand (texts : List String)
  /-- A word that nothing accepts. -/
  | extra (text : String)
  deriving DecidableEq, Repr, Inhabited

/-- The events of a command line up to its first misuse. -/
structure Reading where
  events : List Event := []
  misuse : Option Misuse := none
  deriving DecidableEq, Repr, Inhabited

/-- Short options without values can share one dash. Gives the events of the options in
`text`, which follows the option `f`, and says whether the last one still waits for its
value. -/
def cluster (flags : List Flag) : (fuel : Nat) → Flag → List Char →
    Except Misuse (List Event × Option Flag)
  | 0, f, text => .error (.unusedValue f.title (String.ofList text))
  | fuel + 1, f, text =>
    if f.takesValue then .ok ([.flag f (String.ofList text)], none)
    else
      match text with
      | [] => .error (.unusedValue f.title "")
      | c :: rest =>
        match byName? flags (String.ofList ['-', c]) with
        | none => .error (.unusedValue f.title (String.ofList text))
        | some g =>
          let found : Except Misuse (List Event × Option Flag) :=
            if !rest.isEmpty then cluster flags fuel g rest
            else if g.takesValue then .ok ([], some g)
            else .ok ([.flag g none], none)
          found.map fun (events, waiting) => (.flag f none :: events, waiting)

/-- The events of an option within its own word, and whether it waits for a value. -/
def ownEvents (flags : List Flag) (use : Use) : Except Misuse (List Event × Option Flag) :=
  match use.attached with
  | none =>
    if use.flag.takesValue then .ok ([], some use.flag) else .ok ([.flag use.flag none], none)
  | some text =>
    if isLong use.name && !use.flag.takesValue then .error (.unusedValue use.flag.title text)
    else cluster flags (text.length + 1) use.flag text.toList

/-- The words of the operand at the front, and what follows them. -/
def splitOperand : Operand → List Word → Option (List String × List Word)
  | .single, .operand text :: .divider :: rest => some ([text], rest)
  | .single, .operand text :: rest => some ([text], rest)
  | .single, .divider :: .operand text :: rest => some ([text], rest)
  | .rest, .operand text :: rest => some (text :: rest.map Word.text, [])
  | .rest, .divider :: .operand text :: rest =>
    some (dividerText :: text :: rest.map Word.text, [])
  | _, _ => none

/-- Puts events in front of a reading. -/
def Reading.after (events : List Event) (r : Reading) : Reading :=
  { r with events := events ++ r.events }

/-- Goes through the words. `operand` is what is still wanted, and `fuel` bounds the
number of steps. -/
def readWords (flags : List Flag) : (fuel : Nat) → Operand → List Word → Reading
  | 0, _, _ => {}
  | _ + 1, _, [] => {}
  | fuel + 1, operand, .option _ use :: rest =>
    match ownEvents flags use with
    | .error misuse => { misuse }
    | .ok (events, none) => (readWords flags fuel operand rest).after events
    | .ok (events, some waiting) =>
      match rest with
      | .operand value :: rest =>
        (readWords flags fuel operand rest).after (events ++ [.flag waiting (some value)])
      | _ => { misuse := some (.missingValue waiting.title) }
  | fuel + 1, operand, .unknown text :: rest =>
    (readWords flags fuel operand rest).after [.extra text]
  | fuel + 1, operand, word :: rest =>
    match splitOperand operand (word :: rest) with
    | some (texts, rest) => (readWords flags fuel .none rest).after [.operand texts]
    | none => (readWords flags fuel operand rest).after [.extra word.text]

/-- What a command line asks of a command. -/
def read (shape : Shape) (argv : List String) : Reading :=
  match words shape.flags argv with
  | .error misuse => { misuse }
  | .ok ws => readWords shape.flags (ws.length + 1) shape.operand ws

end Arguments

end SourceAtlas
