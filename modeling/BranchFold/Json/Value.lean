import BranchFold.Number.Shortest

/-!
# Structured values

The values that requests and reports are made of.  Members of an object keep their order.
-/

namespace BranchFold
namespace Json

/-- A structured value. -/
inductive Value where
  | null
  | bool (value : Bool)
  | int (value : Int)
  | real (value : Binary64)
  | text (value : String)
  | array (items : List Value)
  | object (members : List (String × Value))
  deriving Repr, Inhabited

namespace Value

/-- The member of an object under a key; of several the last counts. -/
def member? (key : String) : List (String × Value) → Option Value
  | [] => none
  | (name, value) :: rest =>
      (member? key rest).orElse fun _ => if name == key then some value else none

mutual
/-- The first number in a value that is not finite. -/
def nonFinite? : Value → Option Binary64
  | real (.finite _ _ _) => none
  | real x => some x
  | array items => nonFiniteItem? items
  | object members => nonFiniteMember? members
  | _ => none

/-- The first number in a list of values that is not finite. -/
def nonFiniteItem? : List Value → Option Binary64
  | [] => none
  | item :: rest => (nonFinite? item).orElse fun _ => nonFiniteItem? rest

/-- The first number in the members of an object that is not finite. -/
def nonFiniteMember? : List (String × Value) → Option Binary64
  | [] => none
  | (_, value) :: rest => (nonFinite? value).orElse fun _ => nonFiniteMember? rest
end

/-- The text, or nothing. -/
def ofOption {α : Type} (write : α → Value) : Option α → Value
  | none => null
  | some a => write a

end Value
end Json
end BranchFold
