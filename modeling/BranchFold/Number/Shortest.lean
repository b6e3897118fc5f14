import BranchFold.Number.Binary64

/-!
# The shortest decimal of a number

Among the decimals that round to a given number of double precision there are some with the fewest
digits, and of those one is nearest to the number.  Reading it back gives the number again, so it is
the text by which the number is written.

Main definitions:

- {lit}`Decimal`: digits and the place of the decimal point.
- {lit}`Decimal.shortest`: the shortest decimal of a positive finite number.
- {lit}`Decimal.positional` and {lit}`Decimal.scientific`: two ways to write it.
-/

namespace BranchFold

/-- The digits of a positive decimal, and the number of them before the decimal point; a negative
number stands for zeros between the point and the first digit. -/
structure Decimal where
  digits : List Char
  point : Int
  deriving DecidableEq, Repr

namespace Decimal

/-- The digits of a natural number. -/
def digitsOf (n : Nat) : List Char :=
  Nat.toDigits 10 n

/-- The quotient times ten to the exponent, again as a quotient. -/
def timesTen (num den : Nat) (exponent : Int) : Nat × Nat :=
  if 0 ≤ exponent then (num * powerOfTen exponent.toNat, den)
  else (num, den * powerOfTen (-exponent).toNat)

/-- The exponent of the leading digit of a positive quotient. -/
def leadingExponent (num den : Nat) : Int :=
  if den ≤ num then ((digitsOf (num / den)).length : Int) - 1
  else -((digitsOf ((den + num - 1) / num - 1)).length : Int)

/-- The quotients that round to a number: all between the bounds, and the bounds too if they are
included.  All have one denominator. -/
structure Interval where
  low : Nat
  value : Nat
  high : Nat
  den : Nat
  closed : Bool
  deriving DecidableEq, Repr

/-- The quotients that round to a mantissa times two to the exponent.  Below a power of two the
numbers lie twice as close. -/
def Interval.of (mantissa : Nat) (exponent : Int) : Interval :=
  let below := if mantissa = powerOfTwo 52 ∧ Binary64.leastExponent < exponent then 1 else 2
  let unit := if 0 ≤ exponent then powerOfTwo exponent.toNat else 1
  { low := (4 * mantissa - below) * unit
    value := 4 * mantissa * unit
    high := (4 * mantissa + 2) * unit
    den := if 0 ≤ exponent then 4 else 4 * powerOfTwo (-exponent).toNat
    closed := mantissa % 2 = 0 }

/-- An integer times ten to the exponent lies in the interval. -/
def Interval.holds (interval : Interval) (n : Nat) (exponent : Int) : Bool :=
  let parts := timesTen n 1 exponent
  let x := parts.1 * interval.den
  let low := interval.low * parts.2
  let high := interval.high * parts.2
  if interval.closed then low ≤ x && x ≤ high else low < x && x < high

/-- Of the two integers next to the value in units of ten to the exponent, the nearer one that lies
in the interval, if one does. -/
def Interval.pick (interval : Interval) (exponent : Int) : Option Nat :=
  let parts := timesTen interval.value interval.den (-exponent)
  let lower := parts.1 / parts.2
  let nearest := roundQuotient parts.1 parts.2
  let other := if nearest = lower then lower + 1 else lower
  if interval.holds nearest exponent then some nearest
  else if interval.holds other exponent then some other
  else none

/-- The first number of digits, so many at most, with which some decimal lies in the interval. -/
def Interval.search (interval : Interval) (leading : Int) : Nat → Int → Option (Nat × Int)
  | 0, _ => none
  | more + 1, count =>
      let exponent := leading - count + 1
      match interval.pick exponent with
      | some n => some (n, exponent)
      | none => interval.search leading more (count + 1)

/-- Digits without the zeros at their end. -/
def dropTrailingZeros (digits : List Char) : List Char :=
  (digits.reverse.dropWhile (· == '0')).reverse

/-- The shortest decimal of a positive mantissa times two to the exponent. -/
def shortest (mantissa : Nat) (exponent : Int) : Decimal :=
  let interval := Interval.of mantissa exponent
  let leading := leadingExponent interval.value interval.den
  match interval.search leading 17 1 with
  | some (n, unit) => ⟨dropTrailingZeros (digitsOf n), (digitsOf n).length + unit⟩
  | none => ⟨['0'], 1⟩

/-! ## Writing -/

/-- So many zeros. -/
def zeros (count : Int) : List Char :=
  List.replicate count.toNat '0'

/-- The decimal with its point in place and at least one digit on each side of it. -/
def positional (d : Decimal) : List Char :=
  if d.point ≤ 0 then '0' :: '.' :: zeros (-d.point) ++ d.digits
  else if (d.digits.length : Int) ≤ d.point then
    d.digits ++ zeros (d.point - d.digits.length) ++ ['.', '0']
  else d.digits.take d.point.toNat ++ '.' :: d.digits.drop d.point.toNat

/-- An exponent with its sign and at least two digits. -/
def exponentText (exponent : Int) : List Char :=
  let digits := digitsOf exponent.natAbs
  (if exponent < 0 then '-' else '+') :: (if digits.length < 2 then '0' :: digits else digits)

/-- The decimal with one digit before the point and an exponent. -/
def scientific (d : Decimal) : List Char :=
  let mantissa := match d.digits with
    | [] => ['0']
    | [c] => [c]
    | c :: rest => c :: '.' :: rest
  mantissa ++ 'e' :: exponentText (d.point - 1)

/-- The usual form: the point in place, unless the number is very small or very large. -/
def usual (d : Decimal) : List Char :=
  if -4 < d.point ∧ d.point ≤ 16 then d.positional else d.scientific

end Decimal

namespace Binary64

/-- The text of a number: its shortest decimal in the usual form. -/
def toText : Binary64 → List Char
  | finite negative mantissa exponent =>
      let size :=
        if mantissa = 0 then ['0', '.', '0'] else (Decimal.shortest mantissa exponent).usual
      if negative then '-' :: size else size
  | infinite negative => if negative then ['-', 'i', 'n', 'f'] else ['i', 'n', 'f']
  | undefined => ['n', 'a', 'n']

/-- The text of a number with two digits after the point. -/
def toHundredths : Binary64 → List Char
  | finite negative mantissa exponent =>
      let parts := scaled (100 * mantissa) 1 (-exponent)
      let hundredths := roundQuotient parts.1 parts.2
      let last := Decimal.digitsOf (hundredths % 100)
      let size :=
        Decimal.digitsOf (hundredths / 100) ++ '.' :: Decimal.zeros (2 - last.length) ++ last
      if negative then '-' :: size else size
  | other => other.toText

end Binary64
end BranchFold
