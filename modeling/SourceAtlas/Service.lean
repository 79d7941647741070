-- Requests over HTTP: asking whether the service is there, and asking for the graph
-- of a directory.
import SourceAtlas.Analysis.Run
import SourceAtlas.Graph.Document
import SourceAtlas.Service.Description
import SourceAtlas.Service.Target

namespace SourceAtlas

/-- A request. The body, when there is one, is a JSON value. -/
structure Request where
  method : String
  target : String
  body : Option Value := none
  deriving Inhabited

/-- An answer. An answer without a body is one whose body is no JSON. -/
structure Response where
  status : Nat
  body : Option Value := none
  deriving Inhabited

namespace Response

/-- An answer that says in one text what was wrong. -/
def refusal (status : Nat) (detail : String) : Response :=
  { status, body := some (.table [("detail", .string detail)]) }

def stepValue : Step → Value
  | .field name => .string name
  | .index n => .int n

def issueValue (i : Issue) : Value :=
  .table
    [("type", .string i.flaw.code), ("loc", .list (i.loc.map stepValue)),
     ("msg", .string i.flaw.message), ("input", i.input)]

/-- An answer that lists what is wrong with a body. -/
def invalid (issues : List Issue) : Response :=
  { status := 422, body := some (.table [("detail", .list (issues.map issueValue))]) }

/-- A failure inside the service itself. -/
def internal : Response := { status := 500 }

end Response

namespace Service

/-- What a request for a graph has to say. -/
structure AnalyzeRequest where
  rootPath : String
  language : String := "go"
  deriving DecidableEq, Repr, Inhabited

/-- Reads the body of a request for a graph. A body that is null counts as absent. -/
def checkBody : Option Value → Checked AnalyzeRequest
  | some (.table fields) =>
    (AnalyzeRequest.mk <$> Check.required fields "root_path" Check.string
      <*> Check.optional fields "language" "go" Check.string).under (.field "body")
  | none | some .null =>
    .bad [{ loc := [.field "body"], flaw := .missing, input := .null }]
  | some v => .bad [{ loc := [.field "body"], flaw := .notTable, input := v }]

/-- The status that tells of an error: the request asked for something that cannot be, or
the tree that it names cannot be read. -/
def statusOf : AnalysisError → Nat
  | .badSource _ _ => 422
  | .unwalkable _ _ => 422
  | _ => 400

/-- Answers a request for a graph. A request that is not all text fails even before it is refused,
since the refusal would have to repeat it. -/
def analyze (f : Files) (ready : Bool) (r : AnalyzeRequest) : Response :=
  if !(f.encodes r.rootPath && f.encodes r.language) then .internal
  else if !f.isDirectory r.rootPath then .refusal 400 ("Invalid root_path: " ++ r.rootPath)
  else
    match (Analysis.run f ready r.rootPath (some r.language) none).outcome with
    | .ok g => { status := 200, body := some g.document }
    | .error (.analysis e) => .refusal (statusOf e) e.message
    | .error _ => .internal

/-- What the service has. -/
inductive Resource where
  | health
  | analyze
  | description
  /-- A page for people, which is no JSON. -/
  | page
  deriving DecidableEq, Repr, Inhabited

namespace Resource

/-- The resource at a path. -/
def at? (path : String) : Option Resource :=
  if path = "/health" then some .health
  else if path = "/analyze" then some .analyze
  else if path = "/openapi.json" then some .description
  else if ["/docs", "/docs/oauth2-redirect", "/redoc"].contains path then some .page
  else none

/-- The methods that a resource takes. -/
def methods : Resource → List String
  | health => ["GET"]
  | analyze => ["POST"]
  | description => ["GET", "HEAD"]
  | page => ["GET", "HEAD"]

end Resource

/-- The answer of a resource to a request that it takes. -/
def serve (f : Files) (ready : Bool) (r : Request) : Resource → Response
  | .health => { status := 200, body := some (.table [("status", .string "ok")]) }
  | .analyze =>
    match checkBody r.body with
    | .ok request => analyze f ready request
    | .bad issues => .invalid issues
  | .description => { status := 200, body := some description }
  | .page => { status := 200 }

/-- The answer to a request with all of its body. -/
def fullAnswer (f : Files) (ready : Bool) (r : Request) : Response :=
  match Resource.at? (pathOf r.target) with
  | some resource =>
    if resource.methods.contains r.method then serve f ready r resource
    else .refusal 405 "Method Not Allowed"
  | none => .refusal 404 "Not Found"

/-- The answer as it goes out. One whose body is not all text cannot. -/
def sent (f : Files) (r : Response) : Response :=
  match r.body with
  | some v => if v.texts.all f.encodes then r else .internal
  | none => r

/-- Answers a request. A request for the head alone gets no body. -/
def answer (f : Files) (ready : Bool) (r : Request) : Response :=
  let full := sent f (fullAnswer f ready r)
  if r.method = "HEAD" then { full with body := none } else full

end Service

end SourceAtlas
