-- The description of the service for machines: its paths, what they take, and what they
-- give.
import SourceAtlas.Format.Value

namespace SourceAtlas.Service

/-- A type with a title. Titles come last. -/
def titled (parts : List (String × Value)) (title : String) : Value :=
  .table (parts ++ [("title", .string title)])

/-- A simple type with a title. -/
def simple (type title : String) : Value := titled [("type", .string type)] title

/-- The content of a message in JSON. -/
def jsonContent (type : Value) : Value :=
  .table [("application/json", .table [("schema", type)])]

/-- A type that is described elsewhere. -/
def reference (name : String) : Value :=
  .table [("$ref", .string ("#/components/schemas/" ++ name))]

def responseValue (description : String) (type : Value) : Value :=
  .table [("description", .string description), ("content", jsonContent type)]

/-- A table whose fields have any names. -/
def openTable (entry : Value) (title : String) : Value :=
  titled [("additionalProperties", entry), ("type", .string "object")] title

def healthValue : Value :=
  .table
    [("summary", .string "Health"),
     ("operationId", .string "health_health_get"),
     ("responses", .table
       [("200", responseValue "Successful Response"
          (openTable (.table [("type", .string "string")]) "Response Health Health Get"))])]

def analyzeValue : Value :=
  .table
    [("summary", .string "Analyze Tree"),
     ("operationId", .string "analyze_tree_analyze_post"),
     ("requestBody", .table
       [("content", jsonContent (reference "AnalyzeRequest")), ("required", .bool true)]),
     ("responses", .table
       [("200", responseValue "Successful Response"
          (openTable (.bool true) "Response Analyze Tree Analyze Post")),
        ("422", responseValue "Validation Error" (reference "HTTPValidationError"))])]

def requestType : Value :=
  titled
    [("properties", .table
       [("root_path", simple "string" "Root Path"),
        ("language", .table
          [("type", .string "string"), ("title", .string "Language"), ("default", .string "go")])]),
     ("type", .string "object"),
     ("required", .list [.string "root_path"])]
    "AnalyzeRequest"

def findingsType : Value :=
  titled
    [("properties", .table
       [("detail", titled
          [("items", reference "ValidationError"), ("type", .string "array")] "Detail")]),
     ("type", .string "object")]
    "HTTPValidationError"

def findingType : Value :=
  let step : Value :=
    .table [("anyOf", .list
      [.table [("type", .string "string")], .table [("type", .string "integer")]])]
  titled
    [("properties", .table
       [("loc", titled [("items", step), ("type", .string "array")] "Location"),
        ("msg", simple "string" "Message"),
        ("type", simple "string" "Error Type"),
        ("input", titled [] "Input"),
        ("ctx", simple "object" "Context")]),
     ("type", .string "object"),
     ("required", .list [.string "loc", .string "msg", .string "type"])]
    "ValidationError"

/-- All that the service says about itself. -/
def description : Value :=
  .table
    [("openapi", .string "3.1.0"),
     ("info", .table
       [("title", .string "Architecture Graph Analyzer"), ("version", .string "0.1.0")]),
     ("paths", .table
       [("/health", .table [("get", healthValue)]),
        ("/analyze", .table [("post", analyzeValue)])]),
     ("components", .table
       [("schemas", .table
          [("AnalyzeRequest", requestType),
           ("HTTPValidationError", findingsType),
           ("ValidationError", findingType)])])]

end SourceAtlas.Service
