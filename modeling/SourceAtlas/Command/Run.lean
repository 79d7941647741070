-- Running a command line against a file tree. A run ends with an exit code or with a
-- failure that it does not handle, and says what it printed and what the file tree is
-- afterwards.
import SourceAtlas.Analysis.Run
import SourceAtlas.Command.Line
import SourceAtlas.Graph.Document
import SourceAtlas.Graph.Stats

namespace SourceAtlas

/-- How a run ended. -/
structure Ending where
  files : Files
  output : String := ""
  errors : String := ""
  /-- The server that was asked for. -/
  served : Option ServeOptions := none
  result : Except Failure Nat

namespace Ending

/-- Puts text in front of what was printed. -/
def after (output errors : String) (e : Ending) : Ending :=
  { e with output := output ++ e.output, errors := errors ++ e.errors }

end Ending

namespace Command

/-- A line of printed text. -/
def line (text : String) : String := text ++ "\n"

/-- The log as it is printed. Without `verbose` only warnings are. -/
def logText (verbose : Bool) (log : List Event) : String :=
  String.join ((log.filter fun e => verbose || e.level = .warning).map fun e => line e.line)

/-- Writes the graph, says so and ends. The saying may fail when all is written. -/
def finish (f : Files) (output : String) (g : Graph) : Ending :=
  let written := g.save f output
  match written.fault with
  | none =>
    if f.encodes output then
      { files := written.files
        output := line ("Graph saved to " ++ output)
        result := .ok 0 }
    else { files := written.files, result := .error .unencodable }
  | some fault =>
    if fault.cause = .embeddedNul then
      { files := written.files, result := .error (.fault fault) }
    else
      { files := written.files
        errors := line ("failed to write " ++ output ++ ": " ++ fault.message)
        result := .ok 1 }

/-- Analyses a tree and writes its graph. First it says what it is about to do. -/
def runCollect (f : Files) (ready verbose : Bool) (o : CollectOptions) : Ending :=
  if !f.exists? o.path then
    { files := f, errors := line ("directory does not exist: " ++ o.path), result := .ok 1 }
  else if !(f.encodes o.path && f.encodes o.language) then
    { files := f, result := .error .unencodable }
  else
    let work := Analysis.run f ready o.path (some o.language) none
    let ending : Ending :=
      match work.outcome with
      | .ok g => (finish f o.output g).after (line (Stats.ofGraph g).text) ""
      | .error (.analysis e) =>
        { files := f, errors := line ("analysis failed: " ++ e.message), result := .ok 1 }
      | .error failure => { files := f, result := .error failure }
    ending.after (line ("Analyzing code: " ++ o.path ++ " (language: " ++ o.language ++ ")"))
      (logText verbose work.log)

/-- Runs a command line. `ready` says that the parser needs no preparation. -/
def run (f : Files) (ready : Bool) (argv : List String) : Ending :=
  match ofArguments argv with
  | .error (.help page) => { files := f, output := page.help, result := .ok 0 }
  | .error (.misuse page m) => { files := f, errors := page.complaint m, result := .ok 2 }
  | .ok (verbose, .collect o) => runCollect f ready verbose o
  | .ok (_, .serve o) => { files := f, served := some o, result := .ok 0 }

end Command

end SourceAtlas
