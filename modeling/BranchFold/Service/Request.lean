import BranchFold.Json.Bytes
import BranchFold.Language
import BranchFold.Schema.Check
import BranchFold.Settings.Environment

/-!
# Requests to the service

A request names a method and a path and may carry a body.  The body of a request for ranges is an
object with the text of a document and, if the caller likes, its language and wishes about the
policy.
-/

namespace BranchFold
namespace Service

open Json (Value)
open Schema (Checked Problem Step)

/-- The body of a request. -/
inductive Body where
  | absent
  /-- Text that has still to be read. -/
  | raw (text : String)
  /-- A structured value. -/
  | value (value : Value)
  deriving Repr

/-- A request. -/
structure Request where
  method : String
  path : String
  body : Body := .absent
  /-- What goes wrong inside the service while it works on the request, if anything does. -/
  fault : Option String := none
  deriving Repr

/-- A request for the ranges of a document. -/
structure FoldRequest where
  text : String
  language : Option String := none
  depthGate : Option Bool := none
  depthThreshold : Option Int := none
  deriving DecidableEq, Repr

/-- Why the body of a request is no request for ranges. -/
inductive BodyFault where
  /-- The body has problems. -/
  | problems (problems : List Problem)
  /-- The body has a problem with a part that holds a number which no answer can quote. -/
  | unquotable (number : Binary64)
  /-- The body cannot be read at all. -/
  | unreadable
  deriving DecidableEq, Repr

namespace FoldRequest

/-- What the caller asks for instead of the service's policy. -/
def wishes (request : FoldRequest) : PolicyOverrides :=
  ⟨request.depthGate, request.depthThreshold⟩

/-- The request that the members of an object make. -/
def ofMembers (members : List (String × Value)) : Checked FoldRequest :=
  (((Checked.apply (.ok mk) (Schema.required members "text" Schema.string)).apply
    (Schema.optional members "language" none (Schema.nullable Schema.string))).apply
    (Schema.optional members "depth_gate" none (Schema.nullable Schema.bool))).apply
    (Schema.optional members "depth_threshold" none (Schema.nullable (Schema.intFrom 0)))

/-- The request that a structured value makes; no value at all counts as a missing body. -/
def ofValue : Value → Checked FoldRequest
  | .object members => ofMembers members
  | .null => .fail .missing
  | _ => .fail .modelAttributesType

/-- The step from a request to its body. -/
def bodyStep : Step :=
  .key "body"

/-- The first number that an answer about problems of a value would have to quote and cannot. -/
def unquotable? (value : Value) (problems : List Problem) : Option Binary64 :=
  problems.findSome? fun problem => (problem.subject? value).bind Value.nonFinite?

/-- The request that a body makes, with problems seen from the whole request. -/
def ofValueInBody (value : Value) : Except BodyFault FoldRequest :=
  (ofValue value).mapError fun problems =>
    match unquotable? value problems with
    | some number => .unquotable number
    | none => .problems (problems.map (Problem.under bodyStep))

/-- The request that a body makes, read within limits. -/
def ofBody (limits : Json.Limits) : Body → Except BodyFault FoldRequest
  | .absent => .error (.problems [⟨.missing, [bodyStep]⟩])
  | .value value => ofValueInBody value
  | .raw text =>
      if text.isEmpty then .error (.problems [⟨.missing, [bodyStep]⟩])
      else match Json.readBytes limits (Utf8.encode text.toList) with
        | .ok value => ofValueInBody value
        | .error (.unreadable position) =>
            .error (.problems [⟨.jsonInvalid, [bodyStep, .index position]⟩])
        | .error .numberTooLong => .error .unreadable
        | .error .tooDeep => .error .unreadable
        | .error .undecodable => .error .unreadable

end FoldRequest
end Service
end BranchFold
