/-!
# Numbers of double precision

Measured and accumulated quantities are numbers with 53 significant bits.  A finite one is a
mantissa times a power of two, and every operation is exact arithmetic on integers followed by
rounding to the nearest such number, ties to the even mantissa.

Main definitions:

- {lit}`Binary64`: the numbers.
- {lit}`Binary64.ofRatio`: the number nearest to a quotient.
- {lit}`Binary64.add`: the rounded sum.
-/

namespace BranchFold

/-- A number of double precision. -/
inductive Binary64 where
  /-- The mantissa times two to the exponent, with a sign. -/
  | finite (negative : Bool) (mantissa : Nat) (exponent : Int)
  /-- A number too large to be finite. -/
  | infinite (negative : Bool)
  /-- The result of an operation that has none. -/
  | undefined
  deriving DecidableEq, Repr

/-- Two to the power. -/
def powerOfTwo (n : Nat) : Nat :=
  Nat.pow 2 n

/-- Ten to the power. -/
def powerOfTen (n : Nat) : Nat :=
  Nat.pow 10 n

/-- The quotient rounded to the nearest integer, a half going to the even neighbour. -/
def roundQuotient (num den : Nat) : Nat :=
  let whole := num / den
  let rest := num % den
  if den < 2 * rest ∨ (2 * rest = den ∧ whole % 2 = 1) then whole + 1 else whole

/-- A quotient without remainder needs no rounding. -/
theorem roundQuotient_one (n : Nat) : roundQuotient n 1 = n := by
  simp [roundQuotient, Nat.mod_one]

namespace Binary64

/-- The least exponent of a finite number. -/
def leastExponent : Int := -1074

/-- The greatest exponent of a finite number. -/
def greatestExponent : Int := 971

/-- The number zero. -/
def zero : Binary64 :=
  finite false 0 leastExponent

/-- The quotient divided by two to the exponent, again as a quotient. -/
def scaled (num den : Nat) (exponent : Int) : Nat × Nat :=
  if 0 ≤ exponent then (num, den * powerOfTwo exponent.toNat)
  else (num * powerOfTwo (-exponent).toNat, den)

/-- The exponent under which a positive quotient has a mantissa of 53 bits, or the least one. -/
def exponentFor (num den : Nat) : Int :=
  let guess : Int := (Nat.log2 num : Int) - Nat.log2 den - 53
  let parts := scaled num den guess
  let exact := if parts.1 / parts.2 < powerOfTwo 53 then guess else guess + 1
  max exact leastExponent

/-- A finite number, unless its exponent is too great. -/
def bounded (negative : Bool) (mantissa : Nat) (exponent : Int) : Binary64 :=
  if greatestExponent < exponent then infinite negative else finite negative mantissa exponent

/-- The number nearest to a quotient. -/
def ofRatio (negative : Bool) (num den : Nat) : Binary64 :=
  if num = 0 then finite negative 0 leastExponent
  else
    let exponent := exponentFor num den
    let parts := scaled num den exponent
    let mantissa := roundQuotient parts.1 parts.2
    if mantissa = powerOfTwo 53 then bounded negative (powerOfTwo 52) (exponent + 1)
    else bounded negative mantissa exponent

/-- The number nearest to an integer. -/
def ofInt (n : Int) : Binary64 :=
  ofRatio (n < 0) n.natAbs 1

/-- The number one. -/
def one : Binary64 :=
  ofInt 1

/-- The number nearest to a decimal, which is an integer times a power of ten. -/
def ofDecimal (negative : Bool) (digits : Nat) (exponent : Int) : Binary64 :=
  if digits = 0 then finite negative 0 leastExponent
  else
    let magnitude := ((Nat.toDigits 10 digits).length : Int) + exponent
    if 400 < magnitude then infinite negative
    else if magnitude < -400 then finite negative 0 leastExponent
    else if 0 ≤ exponent then ofRatio negative (digits * powerOfTen exponent.toNat) 1
    else ofRatio negative digits (powerOfTen (-exponent).toNat)

/-- The integer by which a finite number exceeds zero in units of two to the given exponent, which
must not be above its own. -/
def unitsOf (negative : Bool) (mantissa : Nat) (exponent unit : Int) : Int :=
  let size : Int := (mantissa * powerOfTwo (exponent - unit).toNat : Nat)
  if negative then -size else size

/-- The number nearest to so many units of two to the given exponent. -/
def ofUnits (units unit : Int) : Binary64 :=
  if 0 ≤ unit then ofRatio (units < 0) (units.natAbs * powerOfTwo unit.toNat) 1
  else ofRatio (units < 0) units.natAbs (powerOfTwo (-unit).toNat)

/-- The sum, rounded. -/
def add : Binary64 → Binary64 → Binary64
  | undefined, _ => undefined
  | _, undefined => undefined
  | infinite s, infinite t => if s = t then infinite s else undefined
  | infinite s, finite _ _ _ => infinite s
  | finite _ _ _, infinite t => infinite t
  | finite s m e, finite t n f =>
      let unit := min e f
      let units := unitsOf s m e unit + unitsOf t n f unit
      if units = 0 then finite (s && t) 0 leastExponent else ofUnits units unit

/-- The first number is at most the second; an undefined one is comparable with none. -/
def le : Binary64 → Binary64 → Bool
  | undefined, _ => false
  | _, undefined => false
  | infinite s, infinite t => s || !t
  | infinite s, finite _ _ _ => s
  | finite _ _ _, infinite t => !t
  | finite s m e, finite t n f =>
      let unit := min e f
      unitsOf s m e unit ≤ unitsOf t n f unit

/-- The integer that a finite number is, if it is one. -/
def toInt? : Binary64 → Option Int
  | finite negative mantissa exponent =>
      if 0 ≤ exponent then some (unitsOf negative mantissa exponent 0)
      else
        let unit := powerOfTwo (-exponent).toNat
        if mantissa % unit = 0 then
          some (if negative then -((mantissa / unit : Nat) : Int) else (mantissa / unit : Nat))
        else none
  | _ => none

end Binary64
end BranchFold
