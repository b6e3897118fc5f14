import BranchFold.Json.Value
import BranchFold.Text.Numeral

/-!
# Reading structured values

A text is read as one value with blanks around it.  Where that is impossible, the place is reported,
counted in characters from the start of the text.  A reader may limit how deeply arrays and objects
are nested and how many digits an integer has.

Main definitions:

- {lit}`Json.ReadError`: the place at which reading fails, or why there is none.
- {lit}`Json.Limits`: what a reader takes on.
- {lit}`Json.read`: the value of a text.
-/

namespace BranchFold
namespace Json

/-- Why a text is no value. -/
inductive ReadError where
  /-- The text cannot be read past this place. -/
  | unreadable (position : Nat)
  /-- An integer has more digits than are accepted. -/
  | numberTooLong
  /-- Arrays and objects are nested more deeply than is accepted. -/
  | tooDeep
  /-- There is no text to be read. -/
  | undecodable
  deriving DecidableEq, Repr

/-- What a reader takes on. -/
structure Limits where
  /-- How deeply arrays and objects may be nested, if that is limited. -/
  nesting : Option Nat := none
  /-- How many digits an integer may have, if that is limited. -/
  digits : Option Nat := none
  deriving DecidableEq, Repr

namespace Limits

/-- The limits inside an array or object, if one may stand here. -/
def inside? (limits : Limits) : Option Limits :=
  match limits.nesting with
  | none => some limits
  | some 0 => none
  | some (more + 1) => some { limits with nesting := some more }

/-- Where nothing is limited, nothing is limited inside. -/
@[simp]
theorem inside?_none (digits : Option Nat) :
    (Limits.mk none digits).inside? = some ⟨none, digits⟩ := rfl

end Limits

/-- What is left to read, and how many characters stand before it. -/
structure Rest where
  position : Nat
  text : Text
  deriving DecidableEq, Repr

namespace Rest

/-- Nothing has been read. -/
def start (text : Text) : Rest :=
  ⟨0, text⟩

/-- The rest after so many more characters. -/
def advance (rest : Rest) (count : Nat) : Rest :=
  ⟨rest.position + count, rest.text.drop count⟩

/-- A character that may stand between the parts of a value. -/
def isSpace (c : Char) : Bool :=
  c == ' ' || c == '\t' || c == '\n' || c == '\r'

/-- The rest after the blanks at its start. -/
def skipSpace (rest : Rest) : Rest :=
  rest.advance (rest.text.takeWhile isSpace).length

/-- Reading fails here. -/
def fail {α : Type} (rest : Rest) : Except ReadError α :=
  .error (.unreadable rest.position)

end Rest

/-! ## Texts -/

/-- The value of a hexadecimal digit. -/
def hexValue? (c : Char) : Option Nat :=
  if c.isDigit then some (c.toNat - 48)
  else if 'a' ≤ c ∧ c ≤ 'f' then some (c.toNat - 87)
  else if 'A' ≤ c ∧ c ≤ 'F' then some (c.toNat - 55)
  else none

/-- The code unit that the first four characters stand for; a further character must follow. -/
def unit? (text : Text) : Option Nat :=
  match text with
  | a :: b :: c :: d :: _ :: _ => do
      let a ← hexValue? a
      let b ← hexValue? b
      let c ← hexValue? c
      let d ← hexValue? d
      return 4096 * a + 256 * b + 16 * c + d
  | _ => none

/-- The first half of a code point beyond the first plane. -/
def isHighUnit (unit : Nat) : Bool :=
  0xD800 ≤ unit && unit ≤ 0xDBFF

/-- The second half of a code point beyond the first plane. -/
def isLowUnit (unit : Nat) : Bool :=
  0xDC00 ≤ unit && unit ≤ 0xDFFF

/-- The character of a code unit; half a code point gives the replacement character. -/
def charOfUnit (unit : Nat) : Char :=
  if isHighUnit unit || isLowUnit unit then '\uFFFD' else Char.ofNat unit

/-- The character of the two halves of a code point. -/
def charOfPair (high low : Nat) : Char :=
  Char.ofNat (0x10000 + 0x400 * (high - 0xD800) + (low - 0xDC00))

/-- The character for which a one-letter escape stands. -/
def shortEscape? : Char → Option Char
  | '"' => some '"'
  | '\\' => some '\\'
  | '/' => some '/'
  | 'b' => some (Char.ofNat 8)
  | 'f' => some (Char.ofNat 12)
  | 'n' => some '\n'
  | 'r' => some '\r'
  | 't' => some '\t'
  | _ => none

/-- What an escape of a code unit stands for, how many characters it takes after the backslash, or
how far after the backslash reading fails. -/
def unitEscape (text : Text) : Except Nat (Char × Nat) :=
  match unit? text with
  | none => .error 1
  | some high =>
      match text.drop 4 with
      | '\\' :: 'u' :: more =>
          if isHighUnit high && 4 < more.length then
            match unit? more with
            | none => .error 7
            | some low =>
                if isLowUnit low then .ok (charOfPair high low, 11)
                else .ok (charOfUnit high, 5)
          else .ok (charOfUnit high, 5)
      | _ => .ok (charOfUnit high, 5)

/-- The text up to its closing quote, and the rest after that.  The opening quote stood at the given
place; some characters belong to an escape that has been read and are passed over. -/
def readText (opened : Nat) (position passed : Nat) (done : Text) :
    Text → Except ReadError (String × Rest)
  | [] => .error (.unreadable opened)
  | c :: rest =>
      if 0 < passed then readText opened (position + 1) (passed - 1) done rest
      else if c == '"' then .ok (String.ofList done.reverse, ⟨position + 1, rest⟩)
      else if c == '\\' then
        match rest with
        | [] => .error (.unreadable opened)
        | 'u' :: more =>
            match unitEscape more with
            | .ok (char, count) => readText opened (position + 1) count (char :: done) rest
            | .error offset => .error (.unreadable (position + offset))
        | letter :: _ =>
            match shortEscape? letter with
            | some char => readText opened (position + 1) 1 (char :: done) rest
            | none => .error (.unreadable position)
      else if c.toNat < 32 then .error (.unreadable position)
      else readText opened (position + 1) 0 (c :: done) rest

/-! ## Numbers -/

/-- The digits at the start of a text. -/
def leadingDigits (text : Text) : Text :=
  text.takeWhile Char.isDigit

/-- The digits of the whole part of a number: a zero stands alone. -/
def wholePart (text : Text) : Text :=
  match text with
  | '0' :: _ => ['0']
  | _ => leadingDigits text

/-- The digits after a decimal point. -/
def fractionPart : Text → Text
  | '.' :: rest => leadingDigits rest
  | _ => []

/-- The exponent at the start of a text, and how many characters it takes. -/
def exponentPart (text : Text) : Option (Int × Nat) :=
  match text with
  | e :: rest =>
      if e == 'e' || e == 'E' then
        let signed := match rest with
          | '-' :: more => (true, more, 2)
          | '+' :: more => (false, more, 2)
          | _ => (false, rest, 1)
        let digits := leadingDigits signed.2.1
        let size : Int := Text.ofAsciiDigits digits
        if digits.isEmpty then none
        else some (if signed.1 then -size else size, signed.2.2 + digits.length)
      else none
  | [] => none

/-- The number at the start of the rest. -/
def readNumber (limits : Limits) (rest : Rest) : Except ReadError (Value × Rest) :=
  let negative := rest.text.head? == some '-'
  let sign := if negative then 1 else 0
  let body := rest.text.drop sign
  let whole := wholePart body
  if whole.isEmpty then rest.fail
  else
    let afterWhole := body.drop whole.length
    let fraction := fractionPart afterWhole
    let fractionLength := if fraction.isEmpty then 0 else fraction.length + 1
    let exponent := exponentPart (afterWhole.drop fractionLength)
    let exponentLength := (exponent.map (·.2)).getD 0
    let after := rest.advance (sign + whole.length + fractionLength + exponentLength)
    if fraction.isEmpty && exponent.isNone then
      if limits.digits.any (· < whole.length) then .error .numberTooLong
      else
        let size : Int := Text.ofAsciiDigits whole
        .ok (.int (if negative then -size else size), after)
    else
      let scale : Int := (exponent.map (·.1)).getD 0 - fraction.length
      let digits := Text.ofAsciiDigits (whole ++ fraction)
      .ok (.real (Binary64.ofDecimal negative digits scale), after)

/-! ## Values -/

/-- The words that are values. -/
def words : List (Text × Value) :=
  [("null".toList, .null), ("true".toList, .bool true), ("false".toList, .bool false),
    ("NaN".toList, .real .undefined), ("Infinity".toList, .real (.infinite false)),
    ("-Infinity".toList, .real (.infinite true))]

/-- A value that is a word, a text or a number. -/
def readSimple (limits : Limits) (rest : Rest) : Except ReadError (Value × Rest) :=
  match words.find? fun word => Text.startsWith rest.text word.1 with
  | some (word, value) => .ok (value, rest.advance word.length)
  | none =>
      match rest.text with
      | '"' :: more =>
          (readText rest.position (rest.position + 1) 0 [] more).map fun (s, after) =>
            (.text s, after)
      | _ => readNumber limits rest

mutual
/-- The value at the start of the rest; the first argument bounds the number of steps. -/
def readValue : Nat → Limits → Rest → Except ReadError (Value × Rest)
  | 0, _, rest => rest.fail
  | fuel + 1, limits, rest =>
      match rest.text with
      | '[' :: _ =>
          match limits.inside? with
          | none => .error .tooDeep
          | some inside =>
              let inner := (rest.advance 1).skipSpace
              if inner.text.head? == some ']' then .ok (.array [], inner.advance 1)
              else readItems fuel inside [] inner
      | '\x7b' :: _ =>
          match limits.inside? with
          | none => .error .tooDeep
          | some inside =>
              let inner := (rest.advance 1).skipSpace
              if inner.text.head? == some '\x7d' then .ok (.object [], inner.advance 1)
              else readMembers fuel inside [] inner
      | _ => readSimple limits rest

/-- The items of an array from here to its closing bracket; those before come last first. -/
def readItems : Nat → Limits → List Value → Rest → Except ReadError (Value × Rest)
  | 0, _, _, rest => rest.fail
  | fuel + 1, limits, done, rest =>
      match readValue fuel limits rest with
      | .error e => .error e
      | .ok (value, after) =>
          let after := after.skipSpace
          match after.text with
          | ']' :: _ => .ok (.array (value :: done).reverse, after.advance 1)
          | ',' :: _ => readItems fuel limits (value :: done) (after.advance 1).skipSpace
          | _ => after.fail

/-- The members of an object from here to its closing bracket; those before come last first. -/
def readMembers : Nat → Limits → List (String × Value) → Rest → Except ReadError (Value × Rest)
  | 0, _, _, rest => rest.fail
  | fuel + 1, limits, done, rest =>
      match rest.text with
      | '"' :: more =>
          match readText rest.position (rest.position + 1) 0 [] more with
          | .error e => .error e
          | .ok (key, afterKey) =>
              let afterKey := afterKey.skipSpace
              match afterKey.text with
              | ':' :: _ =>
                  match readValue fuel limits (afterKey.advance 1).skipSpace with
                  | .error e => .error e
                  | .ok (value, after) =>
                      let after := after.skipSpace
                      match after.text with
                      | '\x7d' :: _ => .ok (.object ((key, value) :: done).reverse, after.advance 1)
                      | ',' :: _ =>
                          readMembers fuel limits ((key, value) :: done) (after.advance 1).skipSpace
                      | _ => after.fail
              | _ => afterKey.fail
      | _ => rest.fail
end

/-- The value of a text. -/
def read (limits : Limits) (text : Text) : Except ReadError Value :=
  match readValue (2 * text.length + 2) limits (Rest.start text).skipSpace with
  | .error e => .error e
  | .ok (value, after) =>
      let after := after.skipSpace
      if after.text.isEmpty then .ok value else after.fail

end Json
end BranchFold
