-- The path that a module gives itself in its descriptor.
import SourceAtlas.Analysis.Configuration

namespace SourceAtlas

namespace ModulePath

/-- The word that a path stands after, with the blank between them. -/
def keyword : String := "module "

/-- The path that a line gives. Blanks around the line and around the path do not count. -/
def ofLine? (line : String) : Option String :=
  let text := Text.strip line
  if Text.startsWith text keyword then
    some (Text.strip (String.ofList (text.toList.drop keyword.length)))
  else none

/-- The path in the first line that gives one. -/
def ofText? (text : String) : Option String := (Text.lines text).findSome? ofLine?

/-- Where the descriptor of the module at `root` is. -/
def descriptor (root : String) (settings : Settings) : String :=
  Path.join root settings.moduleDescriptor

/-- The path of the module at `root`, or nothing when no descriptor can be opened or none
of its lines gives a path. -/
def detect (f : Files) (root : String) (settings : Settings) : Traced String :=
  match f.read (descriptor root settings) with
  | .error fault =>
    if fault.cause = .embeddedNul then .fail (.fault fault)
    else do
      Traced.note (.noDescriptor (descriptor root settings))
      return ""
  | .ok content =>
    match content.text? with
    | none => .fail .undecodable
    | some text =>
      match ofText? text with
      | none => .pure ""
      | some path => do
        Traced.note (.moduleFound path)
        return path

end ModulePath

end SourceAtlas
