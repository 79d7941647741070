-- Paths as texts: components between slashes. Everything here is about the text
-- alone; no file is looked at and no link is followed.
import SourceAtlas.Text.Basic

namespace SourceAtlas.Path

/-- The path starts at the root. -/
def isAbsolute (p : String) : Bool := Text.startsWith p "/"

/-- The components that name something: neither empty nor the directory itself. -/
def components (p : String) : List String :=
  (Text.split '/' p).filter fun c => c != "" && c != "."

/-- The slashes that an absolute path starts with. Exactly two stay two; any other
number counts as one. -/
def leadingSlashes (p : String) : String :=
  if Text.startsWith p "///" then "/"
  else if Text.startsWith p "//" then "//"
  else if Text.startsWith p "/" then "/"
  else ""

/-- `name` seen from the directory `dir`. An absolute `name` stands for itself. -/
def join (dir name : String) : String :=
  if isAbsolute name then name
  else if dir == "" || Text.endsWith dir "/" then dir ++ name
  else dir ++ "/" ++ name

/-- One component of a path is added to those before it, which are given last first.
A step up removes a component; at the root it removes nothing, and in a relative
path it stays when there is nothing to remove. -/
def pushComponent (rooted : Bool) (done : List String) (c : String) : List String :=
  if c != ".." then c :: done
  else
    match done with
    | [] => if rooted then [] else [c]
    | last :: before => if last == ".." then c :: done else before

/-- The shortest text for the same path, with steps up taken on the text. -/
def normalize (p : String) : String :=
  let start := leadingSlashes p
  let kept := ((components p).foldl (pushComponent (start != "")) []).reverse
  let text := start ++ String.intercalate "/" kept
  if text == "" then "." else text

/-- The path seen from the root, when `here` is the current directory. -/
def absolute (here p : String) : String :=
  if isAbsolute p then normalize p else normalize (join here p)

/-- What is left of both lists after their common beginning. -/
def dropCommon : List String → List String → List String × List String
  | a :: as, b :: bs => if a == b then dropCommon as bs else (a :: as, b :: bs)
  | as, bs => (as, bs)

/-- The way from the directory `base` to `target`; both are absolute and normal. -/
def relative (target base : String) : String :=
  let (down, up) := dropCommon (components target) (components base)
  let steps := up.map (fun _ => "..") ++ down
  if steps.isEmpty then "." else String.intercalate "/" steps

/-- The directory part: all before the last slash. -/
def directory (p : String) : String :=
  let head := (p.toList.reverse.dropWhile (· != '/')).reverse
  if head.all (· == '/') then String.ofList head
  else String.ofList (Text.dropTrailing (· == '/') head)

/-- The path without empty components and without steps on the spot. Steps up stay. -/
def tidy (p : String) : String :=
  let text := leadingSlashes p ++ String.intercalate "/" (components p)
  if text == "" then "." else text

/-- The end of the last component from its last dot on. A dot that is the first or the
last character of the name starts no suffix. -/
def suffix (p : String) : String :=
  let name := ((components p).getLast?.getD "").toList
  let tail := (name.reverse.takeWhile (· != '.')).reverse
  if tail.isEmpty || name.length ≤ tail.length + 1 then ""
  else String.ofList ('.' :: tail)

end SourceAtlas.Path
