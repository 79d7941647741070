-- Targets of requests: which path a target names. A target can be a path or a whole
-- address.
import SourceAtlas.Text.Basic

namespace SourceAtlas.Service

/-! ## Parts of an address -/

/-- A character of the name of a scheme after its first one. -/
def isSchemePart (c : Char) : Bool := c.isAlphanum || c == '+' || c == '.' || c == '-'

/-- The address without its scheme, and whether it had one. -/
def dropScheme (cs : List Char) : Bool × List Char :=
  match cs.span isSchemePart with
  | (c :: _, ':' :: rest) => if c.isAlpha then (true, rest) else (false, cs)
  | _ => (false, cs)

/-- The address without its host, and whether it had one. -/
def dropHost : List Char → Bool × List Char
  | '/' :: '/' :: rest =>
    let (host, path) := rest.span (· != '/')
    (!host.isEmpty, path)
  | cs => (false, cs)

/-- The path of an address, as it is written. A path alone starts with one slash, however
many are written. -/
def writtenPath (target : String) : List Char :=
  let address := target.toList.takeWhile fun c => c != '?' && c != '#'
  let (hasScheme, rest) := dropScheme address
  let (hasHost, path) := dropHost rest
  if hasScheme && hasHost then path else '/' :: path.dropWhile (· == '/')

/-! ## Paths -/

/-- Follows one segment of a path. `seen` are the segments so far, the last one first. A
step up never leaves the top. -/
def follow (seen : List (List Char)) (segment : List Char) : List (List Char) :=
  if segment == ['.'] then seen
  else if segment == ['.', '.'] then
    match seen with
    | [] => []
    | [[]] => [[]]
    | _ :: rest => rest
  else segment :: seen

/-- The path without dots for the same place and for the place above. -/
def withoutDots (path : List Char) : List Char :=
  ['/'].intercalate ((Text.splitChars '/' path).foldl follow []).reverse

/-- The text with each percent sign and two hexadecimal digits replaced by the character
that they stand for. Nothing beyond ASCII is told apart. -/
def decodePercents : List Char → List Char
  | [] => []
  | '%' :: a :: b :: rest =>
    match Text.hexNumber? [a, b] with
    | some n => (if n < 0x80 then Char.ofNat n else '�') :: decodePercents rest
    | none => '%' :: decodePercents (a :: b :: rest)
  | c :: rest => c :: decodePercents rest

/-- The path that a target names. Percent signs are decoded twice, once on the way and once
on arrival, and slashes at the end do not count. -/
def pathOf (target : String) : String :=
  let path := decodePercents (decodePercents (withoutDots (writtenPath target)))
  String.ofList (Text.dropTrailing (· == '/') path)

end SourceAtlas.Service
