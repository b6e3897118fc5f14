import BranchFold.Text.Blank
import BranchFold.Text.UpperTable

/-!
# Letter case

Lowercase serves only to compare texts with ASCII names and words, so it is given for the characters
that some ASCII letter stands for; every other character stays as it is and equals no ASCII letter.
Uppercase is also shown, so it is given for every character.
-/

namespace BranchFold
namespace Text

/-- The lowercase of a character that has an ASCII lowercase; the Kelvin sign is such a one. -/
def lowerChar (c : Char) : Char :=
  if c == '\u212A' then 'k' else c.toLower

/-- The uppercase of a character, which may take several characters. -/
def upperChar (c : Char) : Text :=
  if c.toNat < 128 then [c.toUpper]
  else match upperExpansions.lookup c.toNat with
    | some codes => codes.map Char.ofNat
    | none =>
        match upperRuns.find? (·.holds c.toNat) with
        | some run => [Char.ofNat (run.shift c.toNat)]
        | none => [c]

/-- Lowercase for comparison with ASCII names. -/
def lower (text : Text) : Text :=
  text.map lowerChar

/-- The text in uppercase. -/
def upper (text : Text) : Text :=
  text.flatMap upperChar

/--
A character stands for a letter, ignoring case, when both have the same lowercase; the dotted and
the dotless i stand for each other, and the long s stands for s.
-/
def sameLetter (letter c : Char) : Bool :=
  if lowerChar letter == 'i' && (c == '\u0130' || c == '\u0131') then true
  else if lowerChar letter == 's' && c == '\u017F' then true
  else lowerChar c == lowerChar letter

/-- Every character stands for itself. -/
@[simp]
theorem sameLetter_self (c : Char) : sameLetter c c = true := by
  unfold sameLetter
  split
  · rfl
  · split
    · rfl
    · simp

end Text
end BranchFold
