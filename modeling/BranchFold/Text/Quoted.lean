import BranchFold.Text.Blank
import BranchFold.Text.PrintableTable

/-!
# Quoted text

Names and paths inside messages are written between quotes.  The single quote is used unless the
text holds single quotes and no double ones.  The quote in use and the backslash are escaped; so is
every character that is not printable, by the shortest of the forms for its code point.
-/

namespace BranchFold
namespace Text

/-- A character that a quoted text shows as itself. -/
def isPrintable (c : Char) : Bool :=
  if c.toNat < 128 then 32 ≤ c.toNat && c.toNat < 127 else !unprintableTable.holds c.toNat

/-- A lowercase hexadecimal digit. -/
def hexDigit (n : Nat) : Char :=
  if n < 10 then Char.ofNat (48 + n) else Char.ofNat (87 + n)

/-- The last digits of a number in base sixteen, as many as asked for. -/
def hexDigits : Nat → Nat → Text
  | 0, _ => []
  | width + 1, n => hexDigits width (n / 16) ++ [hexDigit (n % 16)]

/-- One character of a text quoted with the given mark. -/
def quoteChar (mark c : Char) : Text :=
  if c == mark || c == '\\' then ['\\', c]
  else if c == '\t' then ['\\', 't']
  else if c == '\n' then ['\\', 'n']
  else if c == '\r' then ['\\', 'r']
  else if isPrintable c then [c]
  else if c.toNat < 0x100 then '\\' :: 'x' :: hexDigits 2 c.toNat
  else if c.toNat < 0x10000 then '\\' :: 'u' :: hexDigits 4 c.toNat
  else '\\' :: 'U' :: hexDigits 8 c.toNat

/-- The mark around a quoted text: a single quote, unless the text forces a double one. -/
def quoteMark (text : Text) : Char :=
  if text.contains '\'' && !text.contains '"' then '"' else '\''

/-- The text between quotes. -/
def quoted (text : Text) : Text :=
  let mark := quoteMark text
  mark :: text.flatMap (quoteChar mark) ++ [mark]

/-- The text between quotes, as a string. -/
def quote (s : String) : String :=
  String.ofList (quoted s.toList)

/-- A quoted text begins with its mark. -/
@[simp]
theorem head?_quoted (text : Text) : (quoted text).head? = some (quoteMark text) := rfl

end Text
end BranchFold
