import BranchFold.Number.Binary64
import BranchFold.Text.Numeral

/-!
# Numbers spelled by texts

A record may hold a text where a number is meant.  The text is first brought into plain form, and
then it must be a plain numeral: a minus sign at most, and digits without a zero in front.

Main definitions:

- {lit}`Schema.spelledInt?`: the integer that a text spells.
- {lit}`Schema.spelledNumber?`: the number that a text spells.
-/

namespace BranchFold
namespace Schema

/-! ## Plain form -/

/-- The text without underscores, if each of them stands alone between other characters. -/
def withoutUnderscores (text : Text) : Option Text :=
  if text.head? == some '_' || text.getLast? == some '_' || Text.hasPart text ['_', '_'] then none
  else some (text.filter (· != '_'))

/-- The text without a plus sign at its start, which no minus sign may follow. -/
def withoutPlus : Text → Option Text
  | '+' :: '-' :: _ => none
  | '+' :: rest => some rest
  | text => some text

/-- A digit other than zero. -/
def isNonzeroDigit (c : Char) : Bool :=
  c.isDigit && c != '0'

/-- A character with which a numeral may start once its leading zeros are gone. -/
def isNumeralStart (c : Char) : Bool :=
  isNonzeroDigit c || c == '-'

/-- What remains of a numeral after one of its leading zeros.  Zeros and underscores are passed
over; where only a fraction or nothing at all is left, the last character before it stays. -/
def afterZeros (last : Char) : Text → Option Text
  | [] => some [last]
  | c :: rest =>
      if c == '0' || c == '_' then afterZeros c rest
      else if isNumeralStart c then some (c :: rest)
      else if c == '.' then some (last :: c :: rest)
      else none

/-- The text without leading zeros.  A text that does not start like a numeral has no such form. -/
def withoutLeadingZeros : Text → Option Text
  | [] => none
  | c :: rest =>
      if c == '0' then afterZeros c rest
      else if isNumeralStart c then some (c :: rest)
      else none

/-- The text without a fraction that consists of zeros. -/
def withoutZeroFraction (text : Text) : Text :=
  match text.dropWhile (· != '.') with
  | _ :: zeros =>
      if !zeros.isEmpty && zeros.all (· == '0') then text.takeWhile (· != '.') else text
  | [] => text

/-- The plain form of a text that spells an integer. -/
def plainForm (text : Text) : Option Text :=
  ((withoutPlus (Text.trimNumeral text)).bind withoutLeadingZeros).bind fun digits =>
    withoutUnderscores (withoutZeroFraction digits)

/-! ## Integers -/

/-- The number of a plain numeral without a sign. -/
def plainNat? : Text → Option Nat
  | ['0'] => some 0
  | c :: rest =>
      if isNonzeroDigit c && rest.all Char.isDigit then some (Text.ofAsciiDigits (c :: rest))
      else none
  | [] => none

/-- The integer of a plain numeral of bounded length; the sign counts towards the length. -/
def plainInt? (text : Text) : Option Int :=
  if Text.longestNumeral < text.length then none
  else match text with
    | '-' :: digits => (plainNat? digits).map fun n => -(n : Int)
    | digits => (plainNat? digits).map fun n => (n : Int)

/-- The integer that a text spells. -/
def spelledInt? (text : Text) : Option Int :=
  (plainForm text).bind plainInt?

/-! ## Other numbers -/

/-- The names of the numbers that have no digits. -/
def numberNames : List (String × Binary64) :=
  [("inf", .infinite false), ("infinity", .infinite false), ("nan", .undefined)]

/-- The digits of a text and what follows them. -/
def splitDigits (text : Text) : Text × Text :=
  (text.takeWhile Char.isDigit, text.dropWhile Char.isDigit)

/-- The exponent at the end of a numeral; there may be none. -/
def exponentOfText (text : Text) : Option Int :=
  match text with
  | [] => some 0
  | e :: rest =>
      let signed := Text.splitSign rest
      if (e == 'e' || e == 'E') && !signed.2.isEmpty && signed.2.all Char.isDigit then
        let n : Int := Text.ofAsciiDigits signed.2
        some (if signed.1 then -n else n)
      else none

/-- The number that a numeral without blanks and underscores spells. -/
def numberOfNumeral (text : Text) : Option Binary64 :=
  let signed := Text.splitSign text
  match numberNames.find? fun entry => entry.1.toList == signed.2.map Char.toLower with
  | some (_, .infinite _) => some (.infinite signed.1)
  | some (_, x) => some x
  | none =>
      let whole := splitDigits signed.2
      let fraction := match whole.2 with
        | '.' :: rest => splitDigits rest
        | rest => ([], rest)
      let digits := whole.1 ++ fraction.1
      if digits.isEmpty then none
      else (exponentOfText fraction.2).map fun exponent =>
        Binary64.ofDecimal signed.1 (Text.ofAsciiDigits digits) (exponent - fraction.1.length)

/-- The number that a text spells: a numeral with blanks around it, or one with underscores. -/
def spelledNumber? (text : Text) : Option Binary64 :=
  (numberOfNumeral (Text.trimNumeral text)).orElse fun _ =>
    (withoutUnderscores text).bind numberOfNumeral

/-! ## Laws -/

/-- Without a leading zero there is nothing to remove. -/
theorem withoutLeadingZeros_of_isNumeralStart {c : Char} (rest : Text) (hc : c ≠ '0')
    (h : isNumeralStart c = true) : withoutLeadingZeros (c :: rest) = some (c :: rest) := by
  simp [withoutLeadingZeros, hc, h]

/-- One more leading zero changes nothing in what follows it. -/
theorem afterZeros_zero (last : Char) (rest : Text) :
    afterZeros last ('0' :: rest) = afterZeros '0' rest := by
  simp [afterZeros]

end Schema
end BranchFold
