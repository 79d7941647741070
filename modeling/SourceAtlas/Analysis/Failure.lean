-- How an analysis can fail, and what is said about it.
import SourceAtlas.Files.Lookup
import SourceAtlas.Format.Value

namespace SourceAtlas

/-- Why a directory could not be walked through. -/
inductive WalkFlaw where
  /-- The start is no directory. -/
  | noDirectory (path : String)
  | fault (f : Fault)
  deriving DecidableEq, Repr, Inhabited

def WalkFlaw.message : WalkFlaw → String
  | noDirectory path => path
  | fault f => f.message

/-- Why a source file could not be taken in. -/
inductive SourceFlaw where
  | unreadable (f : Fault)
  | brokenAt (p : Position)
  deriving DecidableEq, Repr, Inhabited

/-- Rows and columns are told counted from one. -/
def SourceFlaw.message : SourceFlaw → String
  | unreadable f => f.message
  | brokenAt p => "syntax error at " ++ toString (p.row + 1) ++ ":" ++ toString (p.column + 1)

/-- Why a settings file is refused. -/
inductive SettingsFlaw where
  /-- The key on the way to the settings holds something other than a table. -/
  | notTable (key : String)
  | issues (found : List Issue)
  deriving Repr, Inhabited

def SettingsFlaw.message : SettingsFlaw → String
  | notTable key => "[" ++ key ++ "] must be a table"
  | issues found =>
    let noun := if found.length == 1 then " validation error" else " validation errors"
    toString found.length ++ noun ++ " for AnalyzerConfig"

/-- The errors that an analysis reports. -/
inductive AnalysisError where
  | unresolvedPath (path : String) (f : Fault)
  | unwalkable (path : String) (flaw : WalkFlaw)
  | badSource (file : String) (flaw : SourceFlaw)
  | unsupported (language : String)
  | badSettings (file : String) (flaw : SettingsFlaw)
  deriving Repr, Inhabited

def AnalysisError.message : AnalysisError → String
  | unresolvedPath path f => "failed to get absolute path of " ++ path ++ ": " ++ f.message
  | unwalkable path flaw => "failed to walk directory " ++ path ++ ": " ++ flaw.message
  | badSource file flaw => "failed to parse file " ++ file ++ ": " ++ flaw.message
  | unsupported language => "unsupported language: " ++ language
  | badSettings file flaw => "invalid configuration in " ++ file ++ ": " ++ flaw.message

/-- All that can stop an analysis. Only the first kind is reported by the analysis; the
others reach whoever called it as they are. -/
inductive Failure where
  | analysis (e : AnalysisError)
  | fault (f : Fault)
  /-- Bytes that should be text are none. -/
  | undecodable
  /-- A settings file holds a number with too many digits. -/
  | oversizedNumber
  /-- A text to be printed stands for bytes that are none. -/
  | unencodable
  deriving Repr, Inhabited

end SourceAtlas
