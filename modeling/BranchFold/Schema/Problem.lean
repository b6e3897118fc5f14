/-!
# Problems of a value

A value that is to be read as a record may fail in several places at once.  Each problem names its
kind and the way to the place.
-/

namespace BranchFold
namespace Schema

/-- A step on the way to a place inside a value. -/
inductive Step where
  | key (name : String)
  | index (number : Nat)
  deriving DecidableEq, Repr

/-- What is wrong at a place. -/
inductive ProblemKind where
  | missing
  | stringType
  | boolType
  | boolParsing
  | intType
  | intParsing
  | intParsingSize
  | intFromFloat
  | finiteNumber
  | greaterThanEqual (least : Int)
  | floatType
  | floatParsing
  | listType
  | dictType
  | modelType (model : String)
  | modelAttributesType
  | jsonInvalid
  deriving DecidableEq, Repr

namespace ProblemKind

/-- The name of a kind of problem. -/
def name : ProblemKind → String
  | missing => "missing"
  | stringType => "string_type"
  | boolType => "bool_type"
  | boolParsing => "bool_parsing"
  | intType => "int_type"
  | intParsing => "int_parsing"
  | intParsingSize => "int_parsing_size"
  | intFromFloat => "int_from_float"
  | finiteNumber => "finite_number"
  | greaterThanEqual _ => "greater_than_equal"
  | floatType => "float_type"
  | floatParsing => "float_parsing"
  | listType => "list_type"
  | dictType => "dict_type"
  | modelType _ => "model_type"
  | modelAttributesType => "model_attributes_type"
  | jsonInvalid => "json_invalid"

/-- What is said about a kind of problem. -/
def message : ProblemKind → String
  | missing => "Field required"
  | stringType => "Input should be a valid string"
  | boolType => "Input should be a valid boolean"
  | boolParsing => "Input should be a valid boolean, unable to interpret input"
  | intType => "Input should be a valid integer"
  | intParsing => "Input should be a valid integer, unable to parse string as an integer"
  | intParsingSize => "Unable to parse input string as an integer, exceeded maximum size"
  | intFromFloat => "Input should be a valid integer, got a number with a fractional part"
  | finiteNumber => "Input should be a finite number"
  | greaterThanEqual least => "Input should be greater than or equal to " ++ toString least
  | floatType => "Input should be a valid number"
  | floatParsing => "Input should be a valid number, unable to parse string as a number"
  | listType => "Input should be a valid list"
  | dictType => "Input should be a valid dictionary"
  | modelType model => "Input should be a valid dictionary or instance of " ++ model
  | modelAttributesType => "Input should be a valid dictionary or object to extract fields from"
  | jsonInvalid => "JSON decode error"

end ProblemKind

/-- A problem at a place, given by the steps that lead there. -/
structure Problem where
  kind : ProblemKind
  place : List Step
  deriving DecidableEq, Repr

/-- The problem seen from one step further out. -/
def Problem.under (step : Step) (problem : Problem) : Problem :=
  { problem with place := step :: problem.place }

/-! ## Collecting problems -/

/-- A result, or all the problems that stand in its way, in order. -/
abbrev Checked (α : Type) := Except (List Problem) α

namespace Checked

/-- One problem at the place itself. -/
def fail {α : Type} (kind : ProblemKind) : Checked α :=
  .error [⟨kind, []⟩]

/-- The result seen from one step further out. -/
def under {α : Type} (step : Step) (checked : Checked α) : Checked α :=
  checked.mapError (·.map (Problem.under step))

/-- Apply a checked function; the problems of both sides come together. -/
def apply {α β : Type} (f : Checked (α → β)) (a : Checked α) : Checked β :=
  match f, a with
  | .ok f, .ok a => .ok (f a)
  | .ok _, .error ps => .error ps
  | .error ps, .ok _ => .error ps
  | .error ps, .error qs => .error (ps ++ qs)

/-- All results, or all problems. -/
def all {α : Type} : List (Checked α) → Checked (List α)
  | [] => .ok []
  | a :: rest => apply (a.map List.cons) (all rest)

end Checked
end Schema
end BranchFold
