import BranchFold.Json.Reader
import BranchFold.Text.Utf8

/-!
# Structured values in bytes

A structured value starts with a character of seven bits, so the zero bytes around that character
tell in which encoding the value was sent.

Main definitions:

- {lit}`Json.Encoding.ofBytes`: the encoding of a sequence of bytes.
- {lit}`Json.textOfBytes?`: the text of a sequence of bytes.
- {lit}`Json.readBytes`: the value of a sequence of bytes.
-/

namespace BranchFold
namespace Json

/-- The order of the bytes of a code unit. -/
inductive ByteOrder where
  | big
  | little
  deriving DecidableEq, Repr

/-- The size of code units and the order of their bytes. -/
inductive Encoding where
  | utf8
  | utf16 (order : ByteOrder)
  | utf32 (order : ByteOrder)
  deriving DecidableEq, Repr

/-- The encoding that the first bytes suggest. -/
def Encoding.ofBytes : List UInt8 → Encoding
  | [a, b] => if a = 0 then utf16 .big else if b = 0 then utf16 .little else utf8
  | a :: b :: c :: d :: _ =>
      if a = 0 then if b = 0 then utf32 .big else utf16 .big
      else if b = 0 then if c = 0 ∧ d = 0 then utf32 .little else utf16 .little
      else utf8
  | _ => utf8

/-- The number that bytes make up in an order. -/
def ByteOrder.number (order : ByteOrder) (bytes : List UInt8) : Nat :=
  let bytes := match order with
    | big => bytes
    | little => bytes.reverse
  bytes.foldl (fun n byte => 256 * n + byte.toNat) 0

/-- The code units of two bytes each; none may be cut off. -/
def units16? (order : ByteOrder) : List UInt8 → Option (List Nat)
  | [] => some []
  | a :: b :: rest => (units16? order rest).map (order.number [a, b] :: ·)
  | _ => none

/-- The code units of four bytes each; none may be cut off. -/
def units32? (order : ByteOrder) : List UInt8 → Option (List Nat)
  | [] => some []
  | a :: b :: c :: d :: rest => (units32? order rest).map (order.number [a, b, c, d] :: ·)
  | _ => none

/-- The text of code units of two bytes. -/
def textOfUnits : List Nat → Text
  | high :: low :: rest =>
      if isHighUnit high && isLowUnit low then charOfPair high low :: textOfUnits rest
      else charOfUnit high :: textOfUnits (low :: rest)
  | [unit] => [charOfUnit unit]
  | [] => []

/-- The text of a sequence of bytes, unless they make up no text.  A byte order mark in front of
single bytes does not count. -/
def textOfBytes? (bytes : List UInt8) : Option Text :=
  match Encoding.ofBytes bytes with
  | .utf8 =>
      match Utf8.decode bytes with
      | .ok ('\uFEFF' :: text) => some text
      | .ok text => some text
      | .error _ => none
  | .utf16 order => (units16? order bytes).map textOfUnits
  | .utf32 order =>
      (units32? order bytes).bind fun units =>
        if units.all (· < 0x110000) then some (units.map charOfUnit) else none

/-- The value of a sequence of bytes. -/
def readBytes (limits : Limits) (bytes : List UInt8) : Except ReadError Value :=
  match textOfBytes? bytes with
  | some text => read limits text
  | none => .error .undecodable

end Json
end BranchFold
