-- Work that leaves a log. The log is kept up to the point where the work stops.
import SourceAtlas.Analysis.Failure

namespace SourceAtlas

inductive Level where
  | debug
  | info
  | warning
  deriving DecidableEq, Repr, Inhabited

def Level.word : Level → String
  | debug => "DEBUG"
  | info => "INFO"
  | warning => "WARNING"

/-- What the log tells about. -/
inductive Event where
  | noDescriptor (path : String)
  | moduleFound (path : String)
  /-- A settings file was passed over; without a fault it was no TOML document. -/
  | settingsSkipped (file : String) (f : Option Fault)
  | settingsLoaded (file : String)
  | parsing (file : String)
  | parserReady (language : String)
  | typeSkipped (package name : String)
  | collected (packages types functions methods : Nat)
  | built (components links : Nat)
  deriving DecidableEq, Repr, Inhabited

namespace Event

def level : Event → Level
  | settingsSkipped _ _ => .warning
  | collected _ _ _ _ => .info
  | built _ _ => .info
  | _ => .debug

/-- The part of the program that speaks. -/
def speaker : Event → String
  | noDescriptor _ => "archgraph.fs_scan"
  | moduleFound _ => "archgraph.fs_scan"
  | settingsSkipped _ _ => "archgraph.config"
  | settingsLoaded _ => "archgraph.config"
  | parsing _ => "archgraph.engine"
  | parserReady _ => "archgraph.go_parse"
  | typeSkipped _ _ => "archgraph.extract"
  | collected _ _ _ _ => "archgraph.engine"
  | built _ _ => "archgraph.builder"

def text : Event → String
  | noDescriptor path => "No module descriptor at " ++ path
  | moduleFound path => "Module path: " ++ path
  | settingsSkipped file none => "Ignoring unreadable config " ++ file ++ ": not a TOML document"
  | settingsSkipped file (some f) => "Ignoring unreadable config " ++ file ++ ": " ++ f.message
  | settingsLoaded file => "Loaded config from " ++ file
  | parsing file => "Parsing " ++ file
  | parserReady language => "tree-sitter parser initialized for " ++ language
  | typeSkipped package name =>
    "Skipping non-struct/interface type " ++ package ++ "." ++ name
  | collected p t f m =>
    "Collected " ++ toString p ++ " packages, " ++ toString t ++ " types, " ++ toString f
      ++ " functions, " ++ toString m ++ " methods"
  | built c l => "Built graph: " ++ toString c ++ " components, " ++ toString l ++ " links"

/-- The log line of an event. -/
def line (e : Event) : String := e.level.word ++ " " ++ e.speaker ++ ": " ++ e.text

end Event

/-- The outcome of some work, and the log that it left. -/
structure Traced (α : Type) where
  log : List Event := []
  outcome : Except Failure α

namespace Traced

variable {α β : Type}

def pure (a : α) : Traced α := { outcome := .ok a }

/-- Goes on with the result of the first work. When that failed, its log is all there is. -/
def bind (x : Traced α) (f : α → Traced β) : Traced β :=
  match x.outcome with
  | .error e => { log := x.log, outcome := .error e }
  | .ok a => { log := x.log ++ (f a).log, outcome := (f a).outcome }

instance : Monad Traced where
  pure := pure
  bind := bind

/-- Stops the work. -/
def fail (e : Failure) : Traced α := { outcome := .error e }

/-- Stops the work with an error of the analysis. -/
def refuse (e : AnalysisError) : Traced α := fail (.analysis e)

/-- Leaves one event in the log. -/
def note (e : Event) : Traced Unit := { log := [e], outcome := .ok () }

def noteAll (es : List Event) : Traced Unit := { log := es, outcome := .ok () }

@[simp]
theorem outcome_pure (a : α) : (pure a).outcome = .ok a := rfl

/-- What comes out does not depend on the log. -/
@[simp]
theorem outcome_bind (x : Traced α) (f : α → Traced β) :
    (x.bind f).outcome = x.outcome.bind fun a => (f a).outcome := by
  unfold bind
  cases x.outcome <;> rfl

end Traced

end SourceAtlas
