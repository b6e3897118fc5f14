import BranchFold.Json.Value
import BranchFold.Schema.Numeral
import BranchFold.Schema.Problem

/-!
# Reading values as records

Values are taken as what they are meant to be where that is beyond doubt: a text that spells a
number counts as that number, a number without a fraction as an integer, and one and zero as truth
values.

Main definitions:

- {lit}`Schema.string`, {lit}`Schema.bool`, {lit}`Schema.int`, {lit}`Schema.float`: simple kinds.
- {lit}`Schema.list`, {lit}`Schema.dict`: kinds made of others.
- {lit}`Schema.required`, {lit}`Schema.optional`: the members of an object.
-/

namespace BranchFold
namespace Schema

open Json (Value)

/-! ## Simple kinds -/

/-- A text. -/
def string : Value → Checked String
  | .text s => .ok s
  | _ => .fail .stringType

/-- Words for false. -/
def falseWords : List String := ["0", "off", "f", "false", "n", "no"]

/-- Words for true. -/
def trueWords : List String := ["1", "on", "t", "true", "y", "yes"]

/-- An integer of 64 bits. -/
def isWord (n : Int) : Bool :=
  -9223372036854775808 ≤ n && n < 9223372036854775808

/-- The integer that a number is; its size has to stay below two to the power of 63. -/
def intOfReal (x : Binary64) : Checked Int :=
  match x, x.toInt? with
  | .finite _ _ _, some n =>
      if n.natAbs < 9223372036854775808 then .ok n else .fail .intParsingSize
  | .finite _ _ _, none => .fail .intFromFloat
  | _, _ => .fail .finiteNumber

/-- The truth value that an integer stands for. -/
def boolOfInt (n : Int) : Checked Bool :=
  if n = 0 then .ok false else if n = 1 then .ok true
  else if isWord n then .fail .boolParsing
  else .fail .boolType

/-- A truth value. -/
def bool : Value → Checked Bool
  | .bool b => .ok b
  | .int n => boolOfInt n
  | .real x =>
      match intOfReal x with
      | .ok n => boolOfInt n
      | .error _ => .fail .boolType
  | .text s =>
      let lowered := s.toList.map Char.toLower
      if falseWords.any (·.toList == lowered) then .ok false
      else if trueWords.any (·.toList == lowered) then .ok true
      else .fail .boolParsing
  | _ => .fail .boolType

/-- An integer. -/
def int : Value → Checked Int
  | .int n => .ok n
  | .bool b => .ok (if b then 1 else 0)
  | .real x => intOfReal x
  | .text s =>
      match spelledInt? s.toList with
      | some n => .ok n
      | none => .fail .intParsing
  | _ => .fail .intType

/-- An integer that is not below a bound. -/
def intFrom (least : Int) (value : Value) : Checked Int :=
  match int value with
  | .ok n => if least ≤ n then .ok n else .fail (.greaterThanEqual least)
  | .error problems => .error problems

/-- A number. -/
def float : Value → Checked Binary64
  | .real x => .ok x
  | .int n =>
      match Binary64.ofInt n with
      | .finite s m e => .ok (.finite s m e)
      | _ => .fail .floatType
  | .bool b => .ok (Binary64.ofInt (if b then 1 else 0))
  | .text s =>
      match spelledNumber? s.toList with
      | some x => .ok x
      | none => .fail .floatParsing
  | _ => .fail .floatType

/-! ## Kinds made of others -/

/-- The value or nothing. -/
def nullable {α : Type} (kind : Value → Checked α) : Value → Checked (Option α)
  | .null => .ok none
  | value => (kind value).map some

/-- A list whose items are of one kind. -/
def list {α : Type} (kind : Value → Checked α) : Value → Checked (List α)
  | .array items =>
      Checked.all (items.zipIdx.map fun (item, i) => Checked.under (.index i) (kind item))
  | _ => .fail .listType

/-- An object whose members are of one kind. -/
def dict {α : Type} (kind : Value → Checked α) : Value → Checked (List (String × α))
  | .object members =>
      Checked.all (members.map fun (key, value) =>
        Checked.under (.key key) ((kind value).map fun a => (key, a)))
  | _ => .fail .dictType

/-! ## Members of an object -/

/-- A member that must be there. -/
def required {α : Type} (members : List (String × Value)) (key : String)
    (kind : Value → Checked α) : Checked α :=
  Checked.under (.key key) <|
    match Value.member? key members with
    | some value => kind value
    | none => .fail .missing

/-- A member that has a default. -/
def optional {α : Type} (members : List (String × Value)) (key : String) (fallback : α)
    (kind : Value → Checked α) : Checked α :=
  match Value.member? key members with
  | some value => Checked.under (.key key) (kind value)
  | none => .ok fallback

/-! ## What problems are about -/

/-- The part of a value to which steps lead. -/
def part? : List Step → Value → Option Value
  | [], value => some value
  | .key name :: rest, .object members => (Value.member? name members).bind (part? rest)
  | .index i :: rest, .array items => (items[i]?).bind (part? rest)
  | _, _ => none

/-- What a problem of a value is about: the part at its place, or the object that lacks a member. -/
def Problem.subject? (problem : Problem) (value : Value) : Option Value :=
  part? (if problem.kind = .missing then problem.place.dropLast else problem.place) value

end Schema
end BranchFold
