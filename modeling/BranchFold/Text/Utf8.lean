import BranchFold.Text.Quoted

/-!
# Text in bytes

Files hold text as UTF-8.  A lead byte announces how many bytes follow and restricts the first of
them, so that every character has one encoding and no surrogate has any.  Decoding stops at the
first place where no character can be read, and says which bytes are at fault.

Main definitions:

- {lit}`Utf8.decode`: the text of a sequence of bytes.
- {lit}`Utf8.encode`: the bytes of a text.
- {lit}`Utf8.Fault.message`: what is said about undecodable bytes.
-/

namespace BranchFold
namespace Utf8

/-! ## Faults -/

/-- Why bytes cannot be decoded. -/
inductive Reason where
  /-- No character begins with this byte. -/
  | invalidStart
  /-- A byte that should continue a character does not. -/
  | invalidContinuation
  /-- The bytes end inside a character. -/
  | unexpectedEnd
  deriving DecidableEq, Repr

/-- The words for a reason. -/
def Reason.message : Reason → String
  | invalidStart => "invalid start byte"
  | invalidContinuation => "invalid continuation byte"
  | unexpectedEnd => "unexpected end of data"

/-- The bytes that cannot be decoded: where they begin, which they are, and why. -/
structure Fault where
  position : Nat
  bytes : List UInt8
  reason : Reason
  deriving DecidableEq, Repr

/-- What is said about undecodable bytes. -/
def Fault.message (fault : Fault) : String :=
  let place := match fault.bytes with
    | [byte] => "byte 0x" ++ String.ofList (Text.hexDigits 2 byte.toNat) ++ " in position " ++
        toString fault.position
    | bytes => "bytes in position " ++ toString fault.position ++ "-" ++
        toString (fault.position + bytes.length - 1)
  "'utf-8' codec can't decode " ++ place ++ ": " ++ fault.reason.message

/-! ## Decoding -/

/-- The closed range in which a byte has to lie. -/
abbrev ByteRange := Nat × Nat

/-- Any byte that continues a character. -/
def continuation : ByteRange :=
  (0x80, 0xBF)

/-- What a lead byte announces: its share of the code point, and the ranges of the bytes after
it. -/
def announced (lead : Nat) : Option (Nat × List ByteRange) :=
  if 0xC2 ≤ lead ∧ lead ≤ 0xDF then some (lead - 0xC0, [continuation])
  else if lead = 0xE0 then some (0, [(0xA0, 0xBF), continuation])
  else if lead = 0xED then some (0xD, [(0x80, 0x9F), continuation])
  else if 0xE1 ≤ lead ∧ lead ≤ 0xEF then some (lead - 0xE0, [continuation, continuation])
  else if lead = 0xF0 then some (0, [(0x90, 0xBF), continuation, continuation])
  else if 0xF1 ≤ lead ∧ lead ≤ 0xF3 then
    some (lead - 0xF0, [continuation, continuation, continuation])
  else if lead = 0xF4 then some (4, [(0x80, 0x8F), continuation, continuation])
  else none

/-- A character that has begun: its bytes so far, last first, the code point that they make up, and
the ranges of the bytes to come. -/
structure Begun where
  bytes : List UInt8
  code : Nat
  awaited : List ByteRange
  deriving DecidableEq, Repr

/-- Decode the bytes from a position on; the text so far comes last character first. -/
def decodeFrom (position : Nat) (begun : Option Begun) (done : Text) :
    List UInt8 → Except Fault Text
  | [] =>
      match begun with
      | none => .ok done.reverse
      | some b => .error ⟨position - b.bytes.length, b.bytes.reverse, .unexpectedEnd⟩
  | byte :: rest =>
      match begun with
      | none =>
          if byte.toNat < 0x80 then
            decodeFrom (position + 1) none (Char.ofNat byte.toNat :: done) rest
          else match announced byte.toNat with
            | none => .error ⟨position, [byte], .invalidStart⟩
            | some (code, awaited) =>
                decodeFrom (position + 1) (some ⟨[byte], code, awaited⟩) done rest
      | some b =>
          match b.awaited with
          | [] => .error ⟨position, [byte], .invalidStart⟩
          | range :: later =>
              if range.1 ≤ byte.toNat ∧ byte.toNat ≤ range.2 then
                let code := 64 * b.code + (byte.toNat - 0x80)
                if later.isEmpty then decodeFrom (position + 1) none (Char.ofNat code :: done) rest
                else decodeFrom (position + 1) (some ⟨byte :: b.bytes, code, later⟩) done rest
              else .error ⟨position - b.bytes.length, b.bytes.reverse, .invalidContinuation⟩

/-- The text of a sequence of bytes. -/
def decode (bytes : List UInt8) : Except Fault Text :=
  decodeFrom 0 none [] bytes

/-! ## Encoding -/

/-- The bytes of a character. -/
def encodeChar (c : Char) : List UInt8 :=
  let code := c.toNat
  let tail (shift : Nat) : UInt8 := UInt8.ofNat (0x80 + code / shift % 64)
  if code < 0x80 then [UInt8.ofNat code]
  else if code < 0x800 then [UInt8.ofNat (0xC0 + code / 64), tail 1]
  else if code < 0x10000 then [UInt8.ofNat (0xE0 + code / 4096), tail 64, tail 1]
  else [UInt8.ofNat (0xF0 + code / 262144), tail 4096, tail 64, tail 1]

/-- The bytes of a text. -/
def encode (text : Text) : List UInt8 :=
  text.flatMap encodeChar

@[simp]
theorem decode_nil : decode [] = .ok [] := rfl

end Utf8
end BranchFold
