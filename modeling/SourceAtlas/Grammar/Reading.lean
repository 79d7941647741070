-- Two readings of the same words. Between brackets a name can be a type or a value,
-- and so can a pointer to it, a name in parentheses, and several names with bars
-- between them. The weights of the two readings decide.
import SourceAtlas.Tree.Node

namespace SourceAtlas.Grammar

/-! ## Weights

A bare name of a type speaks against the reading that needs it. Type arguments speak for
theirs. Nothing else counts. -/

mutual
/-- What speaks for or against a reading, from left to right. -/
def steps : Node → List Int
  | .mk l cs =>
    if l.kind == "type_identifier" then [-1]
    else if l.kind == "qualified_type" then []
    else if l.kind == "generic_type" then stepsAll true cs ++ [2]
    else stepsAll false cs
termination_by structural n => n

/-- The steps of several parts together. With `named`, the first part is what the type
arguments belong to; a bare name does not count there. -/
def stepsAll : (named : Bool) → List Node → List Int
  | _, [] => []
  | named, n :: ns =>
    (if named && n.kind == "type_identifier" then [] else steps n) ++ stepsAll false ns
termination_by structural _ ns => ns
end

/-- What steps come to together. -/
def total (ds : List Int) : Int := ds.foldr (· + ·) 0

/-- The weight of a reading. -/
def weight (n : Node) : Int := total (steps n)

/-- Of two readings with one weight, the one that was ahead last is better. The given one
is ahead at the start, and the other one has had its `weight` all along. -/
def aheadLast (n : Node) (weight : Int) : Bool :=
  ((steps n).foldl
    (fun (sum, ahead) d =>
      let sum := sum + d
      (sum, if sum < weight then false else if weight < sum then true else ahead))
    ((0 : Int), true)).2

/-! ## Type arguments at the end -/

/-- The kinds of types whose last part is a type. -/
def openTypeKinds : List String :=
  ["pointer_type", "negated_type", "slice_type", "array_type", "map_type", "channel_type",
   "function_type"]

mutual
/-- Takes the type arguments off the end of a type. -/
def splitArguments? : Node → Option (Node × List Node)
  | .mk l cs =>
    if l.kind == "generic_type" then
      match cs with
      | [base, arguments] => some (base, arguments.children)
      | _ => none
    else if openTypeKinds.contains l.kind then
      (splitLast? cs).map fun (cs, arguments) => (.mk l cs, arguments)
    else none
termination_by structural n => n

/-- Takes the type arguments off the end of the last part. -/
def splitLast? : List Node → Option (List Node × List Node)
  | [] => none
  | [n] => (splitArguments? n).map fun (n, arguments) => ([n], arguments)
  | n :: ns => (splitLast? ns).map fun (ns, arguments) => (n :: ns, arguments)
termination_by structural ns => ns
end

end SourceAtlas.Grammar
