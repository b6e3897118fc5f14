import BranchFold.Text.Blank
import BranchFold.Text.Digit

/-!
# Numerals

An integer is written as an optional sign and digits, with single underscores between digits where
the writer likes them, and blanks around it all.  The separators of the control range are no blanks
here.  Digits of every script count.  Numerals with too many digits are neither read nor written.
-/

namespace BranchFold
namespace Text

/-- A blank that may stand around a numeral. -/
def isNumeralBlank (c : Char) : Bool :=
  isBlank c && !(28 ≤ c.toNat && c.toNat ≤ 31)

/-- The text without the blanks around a numeral. -/
def trimNumeral (text : Text) : Text :=
  ((text.dropWhile isNumeralBlank).reverse.dropWhile isNumeralBlank).reverse

/-- The values of a run of digits with single underscores between them. -/
def digitRun : Text → Option (List Nat)
  | [] => none
  | [c] => (digitValue? c).map ([·])
  | c :: '_' :: rest => (digitValue? c).bind fun d => (digitRun rest).map (d :: ·)
  | c :: rest => (digitValue? c).bind fun d => (digitRun rest).map (d :: ·)

/-- The number that a list of decimal digits stands for, most significant first. -/
def ofDigits (digits : List Nat) : Nat :=
  digits.foldl (fun n d => 10 * n + d) 0

/-- The number that ASCII digits stand for. -/
def ofAsciiDigits (digits : Text) : Nat :=
  ofDigits (digits.map fun c => c.toNat - 48)

/-- A numeral's sign and the text after it. -/
def splitSign : Text → Bool × Text
  | '-' :: rest => (true, rest)
  | '+' :: rest => (false, rest)
  | text => (false, text)

/-- The largest number of digits with which an integer is read or written. -/
def longestNumeral : Nat := 4300

/-- The integer that a text stands for, with decimal digits of any script. -/
def toInt? (text : Text) : Option Int :=
  let signed := splitSign (trimNumeral text)
  (digitRun signed.2).bind fun digits =>
    if digits.length ≤ longestNumeral then
      let n : Int := ofDigits digits
      some (if signed.1 then -n else n)
    else none

/-- The complaint about an integer with too many digits to be written. -/
def numeralComplaint : String :=
  "Exceeds the limit (" ++ toString longestNumeral ++ " digits) for integer string conversion; " ++
    "use sys.set_int_max_str_digits() to increase the limit"

/-- The numeral of an integer, if it has not too many digits. -/
def ofInt? (n : Int) : Option String :=
  if (Nat.toDigits 10 n.natAbs).length ≤ longestNumeral then some (toString n) else none

end Text
end BranchFold
