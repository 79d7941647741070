-- The commands of the program, and how a command line names one of them.
import SourceAtlas.Command.Arguments
import SourceAtlas.Text.Lines

namespace SourceAtlas

/-- Where to look, where to write, and which language to read. -/
structure CollectOptions where
  path : String
  output : String := "architecture.yaml"
  language : String := "go"
  deriving DecidableEq, Repr, Inhabited

/-- Where to listen, and whether to start anew after changes. -/
structure ServeOptions where
  host : String := "127.0.0.1"
  port : Int := 8000
  reload : Bool := false
  deriving DecidableEq, Repr, Inhabited

inductive Command where
  | collect (options : CollectOptions)
  | serve (options : ServeOptions)
  deriving DecidableEq, Repr, Inhabited

/-- What is told about a command: its name, its usage and the rest of its help. -/
structure Page where
  name : String
  usage : String
  body : List String
  deriving DecidableEq, Repr, Inhabited

namespace Page

def usageLine (p : Page) : String := "usage: " ++ p.usage ++ "\n"

def help (p : Page) : String :=
  p.usageLine ++ String.join (p.body.map (· ++ "\n"))

/-- The message about a misuse. -/
def complaint (p : Page) (m : Misuse) : String :=
  p.usageLine ++ p.name ++ ": error: " ++ m.message ++ "\n"

end Page

/-- Why a command line names nothing to run. -/
inductive Stop where
  | help (page : Page)
  | misuse (page : Page) (m : Misuse)
  deriving DecidableEq, Repr, Inhabited

namespace Command

def programName : String := "archgraph"

def helpFlag : Flag := { names := ["-h", "--help"] }

/-! ## Collecting -/

def outputFlag : Flag := { names := ["-o", "--output"], takesValue := true }

def languageFlag : Flag := { names := ["-l", "--language"], takesValue := true }

def collectShape : Arguments.Shape :=
  { flags := [helpFlag, outputFlag, languageFlag], operand := .single }

def collectPage : Page where
  name := programName ++ " collect"
  usage := programName ++ " collect [-h] [-o OUTPUT] [-l LANGUAGE] path"
  body :=
    ["",
     "positional arguments:",
     "  path                  Path to the source tree",
     "",
     "options:",
     "  -h, --help            show this help message and exit",
     "  -o OUTPUT, --output OUTPUT",
     "                        Output file (.yaml or .json)",
     "  -l LANGUAGE, --language LANGUAGE",
     "                        Programming language (go)"]

/-- What has been understood so far, and the words that nothing accepts. -/
structure Draft (α : Type) where
  options : α
  /-- The operand has been given. -/
  settled : Bool := false
  extras : List String := []
  deriving Repr, Inhabited

/-- One event of a command line that collects. -/
def collectStep (d : Draft CollectOptions) : Arguments.Event → Except Stop (Draft CollectOptions)
  | .extra text => .ok { d with extras := d.extras ++ [text] }
  | .operand texts =>
    .ok { d with options := { d.options with path := texts.headD "" }, settled := true }
  | .flag f value =>
    if f = helpFlag then .error (.help collectPage)
    else if f = outputFlag then .ok { d with options := { d.options with output := value.getD "" } }
    else .ok { d with options := { d.options with language := value.getD "" } }

/-- Goes through the events of a reading. The first stop wins, and a misuse comes after
the events before it. -/
def follow {α : Type} (page : Page) (step : Draft α → Arguments.Event → Except Stop (Draft α))
    (start : α) (reading : Arguments.Reading) : Except Stop (Draft α) := do
  let d ← reading.events.foldlM step { options := start }
  match reading.misuse with
  | some m => throw (.misuse page m)
  | none => return d

/-- The command that the words after its name ask for, and the words left over. -/
def readCollect (argv : List String) : Except Stop (Command × List String) := do
  let d ← follow collectPage collectStep { path := "" } (Arguments.read collectShape argv)
  if d.settled then return (.collect d.options, d.extras)
  throw (.misuse collectPage (.missingArgument "path"))

/-! ## Serving -/

def hostFlag : Flag := { names := ["--host"], takesValue := true }

def portFlag : Flag := { names := ["--port"], takesValue := true }

def reloadFlag : Flag := { names := ["--reload"] }

def serveShape : Arguments.Shape := { flags := [helpFlag, hostFlag, portFlag, reloadFlag] }

def servePage : Page where
  name := programName ++ " serve"
  usage := programName ++ " serve [-h] [--host HOST] [--port PORT] [--reload]"
  body :=
    ["",
     "options:",
     "  -h, --help   show this help message and exit",
     "  --host HOST",
     "  --port PORT",
     "  --reload"]

/-- Blanks that may stand around a number. -/
def isMargin (c : Char) : Bool :=
  if c.toNat < 128 then c == ' ' || ('\t' ≤ c && c ≤ '\r') else Text.isBlank c

/-- Digits of any script, with single underscores between them. -/
def digitValues? : List Char → Option (List Nat)
  | [] => none
  | c :: cs =>
    match Text.digitValue? c with
    | none => none
    | some d =>
      match cs with
      | [] => some [d]
      | '_' :: rest => (digitValues? rest).map (d :: ·)
      | rest => (digitValues? rest).map (d :: ·)

/-- A whole number as people write it, with a sign or without. -/
def readNumber? (text : String) : Option Int :=
  let cs := Text.trimChars isMargin text.toList
  let (negative, body) :=
    match cs with
    | '-' :: rest => (true, rest)
    | '+' :: rest => (false, rest)
    | rest => (false, rest)
  match digitValues? body with
  | none => none
  | some digits =>
    if digits.length ≤ Text.maxDigits then
      let n : Nat := digits.foldl (fun n d => n * 10 + d) 0
      some (if negative then -(n : Int) else n)
    else none

/-- One event of a command line that serves. -/
def serveStep (d : Draft ServeOptions) : Arguments.Event → Except Stop (Draft ServeOptions)
  | .extra text => .ok { d with extras := d.extras ++ [text] }
  | .operand texts => .ok { d with extras := d.extras ++ texts }
  | .flag f value =>
    if f = helpFlag then .error (.help servePage)
    else if f = hostFlag then .ok { d with options := { d.options with host := value.getD "" } }
    else if f = reloadFlag then .ok { d with options := { d.options with reload := true } }
    else
      match readNumber? (value.getD "") with
      | some port => .ok { d with options := { d.options with port } }
      | none => .error (.misuse servePage (.notAnInt portFlag.title (value.getD "")))

def readServe (argv : List String) : Except Stop (Command × List String) := do
  let d ← follow servePage serveStep {} (Arguments.read serveShape argv)
  return (.serve d.options, d.extras)

/-! ## The whole line -/

def verboseFlag : Flag := { names := ["-v", "--verbose"] }

def topShape : Arguments.Shape := { flags := [helpFlag, verboseFlag], operand := .rest }

def topPage : Page where
  name := programName
  usage := programName ++ " [-h] [-v] \x7bcollect,serve\x7d ..."
  body :=
    ["",
     "Build architecture graphs from Go source code",
     "",
     "positional arguments:",
     "  \x7bcollect,serve\x7d",
     "    collect        Collect architecture from source code",
     "    serve          Run FastAPI server",
     "",
     "options:",
     "  -h, --help       show this help message and exit",
     "  -v, --verbose    Debug logging"]

/-- The names of the commands. -/
def names : List String := ["collect", "serve"]

/-- A command line that names a command. -/
structure Line where
  verbose : Bool := false
  command : Option Command := none
  deriving DecidableEq, Repr, Inhabited

/-- The command of that name, given the words after it. -/
def byName (name : String) (argv : List String) : Except Stop (Command × List String) :=
  if name = "collect" then readCollect argv
  else if name = "serve" then readServe argv
  else .error (.misuse topPage (.notAChoice "cmd" name names))

/-- One event of a command line. What a command leaves over comes after all else. -/
def topStep (d : Draft Line) : Arguments.Event → Except Stop (Draft Line)
  | .extra text => .ok { d with extras := d.extras ++ [text] }
  | .operand texts => do
    let (command, extras) ← byName (texts.headD "") texts.tail
    return { d with
      options := { d.options with command := some command }
      settled := true
      extras := d.extras ++ extras }
  | .flag f _ =>
    if f = helpFlag then .error (.help topPage)
    else .ok { d with options := { d.options with verbose := true } }

/-- The command that a command line names, and whether it asks for the whole log. -/
def ofArguments (argv : List String) : Except Stop (Bool × Command) := do
  let d ← follow topPage topStep {} (Arguments.read topShape argv)
  match d.options.command with
  | none => throw (.misuse topPage (.missingArgument "cmd"))
  | some command =>
    if d.extras.isEmpty then return (d.options.verbose, command)
    throw (.misuse topPage (.unrecognized d.extras))

end Command

end SourceAtlas
