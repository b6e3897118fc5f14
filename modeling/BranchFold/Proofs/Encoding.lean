import BranchFold.Text.Utf8
import Mathlib.Tactic.Common

/-!
# Decoding inverts encoding

A text survives being written as bytes and read back: every character is decoded from exactly the
bytes that encode it, whatever follows them.

Main results:

- Theorem {lit}`Utf8.decodeFrom_encodeChar`: the bytes of one character.
- Theorem {lit}`Utf8.decode_encode`: the bytes of a text.
-/

namespace BranchFold
namespace Utf8

/-! ## One byte -/

variable {position : Nat} {done : Text} {byte : UInt8} {rest : List UInt8}

/-- A byte below the first lead byte is a character of its own. -/
theorem decodeFrom_single (h : byte.toNat < 0x80) :
    decodeFrom position none done (byte :: rest) =
      decodeFrom (position + 1) none (Char.ofNat byte.toNat :: done) rest := by
  rw [decodeFrom]
  simp [h]

/-- A lead byte begins a character. -/
theorem decodeFrom_lead {code : Nat} {awaited : List ByteRange} (hlead : 0x80 ≤ byte.toNat)
    (h : announced byte.toNat = some (code, awaited)) :
    decodeFrom position none done (byte :: rest) =
      decodeFrom (position + 1) (some ⟨[byte], code, awaited⟩) done rest := by
  rw [decodeFrom]
  simp [h, Nat.not_lt.2 hlead]

/-- The byte lies in the range. -/
def Fits (byte : UInt8) (range : ByteRange) : Prop :=
  range.1 ≤ byte.toNat ∧ byte.toNat ≤ range.2

/-- A byte that is awaited, but not the last one, continues a character. -/
theorem decodeFrom_middle {bytes : List UInt8} {code : Nat} {range next : ByteRange}
    {later : List ByteRange} (h : Fits byte range) :
    decodeFrom position (some ⟨bytes, code, range :: next :: later⟩) done (byte :: rest) =
      decodeFrom (position + 1)
        (some ⟨byte :: bytes, 64 * code + (byte.toNat - 0x80), next :: later⟩) done rest := by
  rw [decodeFrom]
  simp only [List.isEmpty_cons, Bool.false_eq_true, if_false]
  rw [if_pos ⟨h.1, h.2⟩]

/-- The last byte that is awaited completes a character. -/
theorem decodeFrom_final {bytes : List UInt8} {code : Nat} {range : ByteRange}
    (h : Fits byte range) :
    decodeFrom position (some ⟨bytes, code, [range]⟩) done (byte :: rest) =
      decodeFrom (position + 1) none
        (Char.ofNat (64 * code + (byte.toNat - 0x80)) :: done) rest := by
  rw [decodeFrom]
  simp only [List.isEmpty_nil, if_true]
  rw [if_pos ⟨h.1, h.2⟩]

/-! ## Lead bytes -/

/-- What the lead bytes of two bytes announce. -/
theorem announced_two {share : Nat} (hle : 2 ≤ share) (hlt : share < 32) :
    announced (0xC0 + share) = some (share, [continuation]) := by
  have hlead : 0xC2 ≤ 0xC0 + share ∧ 0xC0 + share ≤ 0xDF := by omega
  simp [announced, hlead]

/-- The range of the second of three bytes. -/
def secondOfThree (share : Nat) : ByteRange :=
  if share = 0 then (0xA0, 0xBF) else if share = 0xD then (0x80, 0x9F) else continuation

/-- What the lead bytes of three bytes announce. -/
theorem announced_three {share : Nat} (hlt : share < 16) :
    announced (0xE0 + share) = some (share, [secondOfThree share, continuation]) := by
  have hall : ∀ share < 16,
      announced (0xE0 + share) = some (share, [secondOfThree share, continuation]) := by decide
  exact hall share hlt

/-- The range of the second of four bytes. -/
def secondOfFour (share : Nat) : ByteRange :=
  if share = 0 then (0x90, 0xBF) else if share = 4 then (0x80, 0x8F) else continuation

/-- What the lead bytes of four bytes announce. -/
theorem announced_four {share : Nat} (hlt : share < 5) :
    announced (0xF0 + share) =
      some (share, [secondOfFour share, continuation, continuation]) := by
  have hall : ∀ share < 5, announced (0xF0 + share) =
      some (share, [secondOfFour share, continuation, continuation]) := by decide
  exact hall share hlt

/-! ## One character -/

/-- The byte that carries six bits of a code point. -/
def tailByte (bits : Nat) : UInt8 :=
  UInt8.ofNat (0x80 + bits % 64)

/-- The value of a byte made from a small number. -/
theorem toNat_ofNat_of_lt {code : Nat} (h : code < 256) : (UInt8.ofNat code).toNat = code :=
  UInt8.toNat_ofNat_of_lt' h

/-- The value of a byte that carries six bits. -/
theorem toNat_tailByte (bits : Nat) : (tailByte bits).toNat = 0x80 + bits % 64 :=
  toNat_ofNat_of_lt (by omega)

/-- The byte continues a character. -/
theorem tailByte_fits (bits : Nat) : Fits (tailByte bits) continuation := by
  unfold Fits
  rw [toNat_tailByte]
  simp only [continuation]
  omega

/-- Two bytes make up a code point. -/
theorem decodeFrom_two {code : Nat} (hle : 0x80 ≤ code) (hlt : code < 0x800) :
    decodeFrom position none done (UInt8.ofNat (0xC0 + code / 64) :: tailByte (code / 1) :: rest) =
      decodeFrom (position + 2) none (Char.ofNat code :: done) rest := by
  have hbyte := toNat_ofNat_of_lt (show 0xC0 + code / 64 < 256 by omega)
  have hlead := announced_two (show 2 ≤ code / 64 by omega) (show code / 64 < 32 by omega)
  rw [← hbyte] at hlead
  have hcode : 64 * (code / 64) + (0x80 + code / 1 % 64 - 0x80) = code := by omega
  rw [decodeFrom_lead (by omega) hlead, decodeFrom_final (tailByte_fits _), toNat_tailByte, hcode]

/-- Three bytes make up a code point that is no surrogate. -/
theorem decodeFrom_three {code : Nat} (hle : 0x800 ≤ code) (hlt : code < 0x10000)
    (hvalid : code < 0xD800 ∨ 0xDFFF < code) :
    decodeFrom position none done
        (UInt8.ofNat (0xE0 + code / 4096) :: tailByte (code / 64) :: tailByte (code / 1) :: rest) =
      decodeFrom (position + 3) none (Char.ofNat code :: done) rest := by
  have hbyte := toNat_ofNat_of_lt (show 0xE0 + code / 4096 < 256 by omega)
  have hlead := announced_three (show code / 4096 < 16 by omega)
  rw [← hbyte] at hlead
  have hsecond : Fits (tailByte (code / 64)) (secondOfThree (code / 4096)) := by
    unfold Fits secondOfThree
    rw [toNat_tailByte]
    split_ifs <;> simp only [continuation] <;> omega
  have hcode : 64 * (64 * (code / 4096) + (0x80 + code / 64 % 64 - 0x80)) +
      (0x80 + code / 1 % 64 - 0x80) = code := by omega
  rw [decodeFrom_lead (by omega) hlead, decodeFrom_middle hsecond,
    decodeFrom_final (tailByte_fits _), toNat_tailByte, toNat_tailByte, hcode]

/-- Four bytes make up a code point beyond the first plane. -/
theorem decodeFrom_four {code : Nat} (hle : 0x10000 ≤ code) (hlt : code < 0x110000) :
    decodeFrom position none done
        (UInt8.ofNat (0xF0 + code / 262144) :: tailByte (code / 4096) :: tailByte (code / 64) ::
          tailByte (code / 1) :: rest) =
      decodeFrom (position + 4) none (Char.ofNat code :: done) rest := by
  have hbyte := toNat_ofNat_of_lt (show 0xF0 + code / 262144 < 256 by omega)
  have hlead := announced_four (show code / 262144 < 5 by omega)
  rw [← hbyte] at hlead
  have hsecond : Fits (tailByte (code / 4096)) (secondOfFour (code / 262144)) := by
    unfold Fits secondOfFour
    rw [toNat_tailByte]
    split_ifs <;> simp only [continuation] <;> omega
  have hcode : 64 * (64 * (64 * (code / 262144) + (0x80 + code / 4096 % 64 - 0x80)) +
      (0x80 + code / 64 % 64 - 0x80)) + (0x80 + code / 1 % 64 - 0x80) = code := by omega
  rw [decodeFrom_lead (by omega) hlead, decodeFrom_middle hsecond,
    decodeFrom_middle (tailByte_fits _), decodeFrom_final (tailByte_fits _), toNat_tailByte,
    toNat_tailByte, toNat_tailByte, hcode]

/-- A character is decoded from exactly its own bytes, whatever follows them. -/
theorem decodeFrom_encodeChar (c : Char) (position : Nat) (done : Text) (rest : List UInt8) :
    ∃ position', decodeFrom position none done (encodeChar c ++ rest) =
      decodeFrom position' none (c :: done) rest := by
  have hvalid : c.toNat < 0xD800 ∨ 0xDFFF < c.toNat ∧ c.toNat < 0x110000 := c.valid
  suffices hcode : ∃ position', decodeFrom position none done (encodeChar c ++ rest) =
      decodeFrom position' none (Char.ofNat c.toNat :: done) rest by
    rwa [Char.ofNat_toNat] at hcode
  unfold encodeChar
  dsimp only
  split_ifs with hone htwo hthree
  · have hbyte := toNat_ofNat_of_lt (show c.toNat < 256 by omega)
    refine ⟨position + 1, ?_⟩
    rw [List.singleton_append, decodeFrom_single (by omega), hbyte]
  · exact ⟨position + 2, decodeFrom_two (by omega) htwo⟩
  · exact ⟨position + 3, decodeFrom_three (by omega) hthree (by omega)⟩
  · exact ⟨position + 4, decodeFrom_four (by omega) (by omega)⟩

/-! ## A text -/

/-- The text so far stays in front of the text that its bytes encode. -/
theorem decodeFrom_encode (text : Text) (position : Nat) (done : Text) :
    decodeFrom position none done (encode text) = .ok (done.reverse ++ text) := by
  -- The position matters to faults alone, so it may be any number after each character.
  induction text generalizing position done with
  | nil => simp [encode, decodeFrom]
  | cons c text ih =>
    rcases decodeFrom_encodeChar c position done (encode text) with ⟨position', hchar⟩
    have hencode : encode (c :: text) = encodeChar c ++ encode text := by
      simp [encode]
    rw [hencode, hchar, ih]
    simp

/-- The bytes of a text are decoded to the text. -/
@[simp]
theorem decode_encode (text : Text) : decode (encode text) = .ok text := by
  rw [decode, decodeFrom_encode]
  simp

end Utf8
end BranchFold
