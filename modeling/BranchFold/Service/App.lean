import BranchFold.Report.Record
import BranchFold.Service.Address
import BranchFold.Service.Exposition
import BranchFold.Service.Request
import BranchFold.Settings.LogLevel
import BranchFold.Version

/-!
# The service

The service answers requests for the ranges of documents, reports on its health and publishes its
metrics.  Its policy is fixed when it starts; each answer may change the metrics.

Main definitions:

- {lit}`App`: a service that has started.
- {lit}`App.handle`: the answer to a request, and the metrics after it.
- {lit}`App.run`: the answers to requests one after another.
-/

namespace BranchFold
namespace Service

open Json (Value)
open Schema (Problem)

/-! ## Answers -/

/-- The ranges of a document, as an answer. -/
structure FoldAnswer where
  ranges : List FoldRange
  lineCount : Nat
  language : Option Language
  time : Binary64
  deriving DecidableEq, Repr

/-- The content of an answer. -/
inductive Content where
  | fold (answer : FoldAnswer)
  | health (policy : Policy) (logLevel : String)
  | metrics (lines : List String)
  | detail (text : String)
  | problems (problems : List Problem)
  /-- An answer would have to quote this number, which cannot be written; nothing is sent. -/
  | unsendable (number : Binary64)
  deriving DecidableEq, Repr

/-- An answer with its status. -/
structure Response where
  status : Int
  content : Content
  deriving DecidableEq, Repr

namespace FoldAnswer

/-- The answer as a structured value. -/
def toValue (answer : FoldAnswer) : Value :=
  .object [("ranges", .array (answer.ranges.map fun range => (RangeRecord.ofRange range).toValue)),
    ("count", .int answer.ranges.length), ("line_count", .int answer.lineCount),
    ("language", .ofOption (fun language => .text language.name) answer.language),
    ("time", .real answer.time)]

end FoldAnswer

/-- The settings of a service as they are shown to its operator. -/
def constants (policy : Policy) (logLevel : String) : Value :=
  .object [("LOG_LEVEL", .text logLevel), ("DEPTH_GATE", .bool policy.depthGate),
    ("DEPTH_THRESHOLD", .int policy.depthThreshold),
    ("COMMENT_MARKERS", .array (policy.commentMarkers.map fun m => .text (String.ofList m))),
    ("RULES", .int Builtin.rules.length)]

/-- The names of the languages, in the order in which they are listed. -/
def languageNames : List String :=
  Language.all.map (·.name)

/-- What is said about a number that cannot be written. -/
def unsendableMessage (number : Binary64) : String :=
  "Out of range float values are not JSON compliant: " ++ String.ofList number.toText

/-- The content of an answer as a structured value; metrics are text and have none. -/
def Content.toValue : Content → Value
  | fold answer => answer.toValue
  | health policy logLevel =>
      .object [("status", .text "ok"), ("app_version", .text version),
        ("constants", constants policy logLevel),
        ("supported_languages", .array (languageNames.map .text))]
  | detail text => .object [("detail", .text text)]
  | metrics _ => .null
  | problems _ => .null
  | unsendable _ => .null

/-! ## The service -/

/-- A service that has started. -/
structure App where
  policy : Policy := {}
  /-- The name of the level of the log, as it is shown. -/
  logLevel : String := "INFO"
  /-- What the service takes on when it reads a body. -/
  limits : Json.Limits := { digits := some Text.longestNumeral }
  deriving DecidableEq, Repr

namespace App

/-- The service that starts in an environment; so many arrays and objects inside one another fit the
stack on which it reads bodies. -/
def start (env : Environment) (nesting : Nat) : Except UnusableLevel App := do
  let level := env.text "FOLDEB_LOG_LEVEL" "INFO"
  let _ ← LogLevel.threshold none env "INFO"
  return {
    policy := Policy.ofEnvironment env
    logLevel := String.ofList (Text.upper level.toList)
    limits := { nesting := some nesting, digits := some Text.longestNumeral } }

/-- The classifier for a request. -/
def classifierFor (app : App) (request : FoldRequest) : Classifier :=
  { policy := app.policy.overridden request.wishes }

/-- What is said about a language that is not supported. -/
def unsupported (language : String) : String :=
  "Unsupported language: " ++ language ++ ". Supported: " ++ String.intercalate ", " languageNames

/-- The path of requests for ranges. -/
def foldPath : String := "/v1/fold"

/-- The label under which an answer to a request for ranges is counted. -/
def foldLabel (status : Int) : ResponseLabel :=
  ⟨foldPath, "POST", status⟩

/-- A refusal or failure of a request for ranges, which is counted. -/
def refuse (metrics : Metrics) (status : String) (code : Int) (elapsed : Binary64) (text : String) :
    Response × Metrics :=
  (⟨code, .detail text⟩,
    (metrics.recordFold status elapsed (Binary64.ofInt 0) []).recordResponse (foldLabel code))

/-- The language that a request names, if it names one; some languages are not supported. -/
def languageOf (request : FoldRequest) : Except String (Option Language) :=
  match request.language with
  | none => .ok none
  | some name =>
      match Language.ofName? name with
      | some language => .ok (some language)
      | none => .error name

/-- The answer to a request for the ranges of a document. -/
def fold (app : App) (metrics : Metrics) (request : FoldRequest) (fault : Option String)
    (elapsed : Binary64) : Response × Metrics :=
  match languageOf request with
  | .error name => refuse metrics "invalid_language" 400 elapsed (unsupported name)
  | .ok language =>
      match fault with
      | some message => refuse metrics "error" 500 elapsed ("Internal error: " ++ message)
      | none =>
          let document := Document.ofText request.text.toList
          let ranges := (app.classifierFor request).foldRanges document
          (⟨200, .fold ⟨ranges, document.length, language, elapsed⟩⟩,
            (metrics.recordFold "success" elapsed (Binary64.ofInt document.length)
              (ranges.map (·.category))).recordResponse (foldLabel 200))

/-- The answer to a request whose body is no request for ranges; it is not counted. -/
def reject : BodyFault → Response
  | .problems problems => ⟨422, .problems problems⟩
  | .unquotable number => ⟨500, .unsendable number⟩
  | .unreadable => ⟨400, .detail "There was an error parsing the body"⟩

/-- What the service offers under a path. -/
inductive Endpoint where
  | fold
  | health
  | metrics
  deriving DecidableEq, Repr

/-- The method by which an endpoint is reached. -/
def Endpoint.method : Endpoint → String
  | fold => "POST"
  | health => "GET"
  | metrics => "GET"

/-- The endpoint at an address. -/
def endpoint? (address : String) : Option Endpoint :=
  let path := Address.path address
  if path == foldPath.toList then some .fold
  else if path == "/health".toList then some .health
  else if path == "/metrics".toList then some .metrics
  else none

/-- The answer to a request, which takes so many seconds, and the metrics after it. -/
def handle (app : App) (metrics : Metrics) (request : Request) (elapsed : Binary64) :
    Response × Metrics :=
  match endpoint? request.path with
  | none => (⟨404, .detail "Not Found"⟩, metrics)
  | some endpoint =>
      if Text.upper request.method.toList = endpoint.method.toList then
        match endpoint with
        | .fold =>
            match FoldRequest.ofBody app.limits request.body with
            | .ok foldRequest => app.fold metrics foldRequest request.fault elapsed
            | .error fault => (reject fault, metrics)
        | .health =>
            (⟨200, .health app.policy app.logLevel⟩, metrics.recordResponse ⟨"/health", "GET", 200⟩)
        | .metrics => (⟨200, .metrics (Exposition.lines metrics)⟩, metrics)
      else (⟨405, .detail "Method Not Allowed"⟩, metrics)

/-- The answers to requests one after another, each with its duration, and the metrics after the
last. -/
def run (app : App) (metrics : Metrics) : List (Request × Binary64) → List Response × Metrics
  | [] => ([], metrics)
  | (request, elapsed) :: rest =>
      let answer := app.handle metrics request elapsed
      let later := run app answer.2 rest
      (answer.1 :: later.1, later.2)

end App
end Service
end BranchFold
