import BranchFold.Text.Blank
import BranchFold.Text.Digit
import BranchFold.Text.Letter
import BranchFold.Text.Word

/-!
# Character classes

The one-character steps of a pattern: literal characters, letters in either case, the classes of
words, blanks and digits, and sets of listed characters with their complements.
-/

namespace BranchFold

/-- What a pattern accepts as one character. -/
inductive CharClass where
  /-- Exactly this character. -/
  | exactly (c : Char)
  /-- This letter in either case. -/
  | letter (c : Char)
  /-- A letter or number of any script, or the underscore. -/
  | word
  /-- A blank character. -/
  | blank
  /-- A decimal digit of any script. -/
  | digit
  /-- Any character but a line feed. -/
  | visible
  /-- One of the listed characters. -/
  | among (chars : List Char)
  /-- Any character but the listed ones. -/
  | outside (chars : List Char)
  /-- A character of either class. -/
  | union (left right : CharClass)
  /-- Any character but those of the class. -/
  | complement (inner : CharClass)
  deriving DecidableEq, Repr

namespace CharClass

/-- The class holds the character. -/
def holds : CharClass → Char → Bool
  | exactly d, c => c == d
  | letter d, c => Text.sameLetter d c
  | word, c => Text.isWord c
  | blank, c => Text.isBlank c
  | digit, c => Text.isDigit c
  | visible, c => c != '\n'
  | among chars, c => chars.contains c
  | outside chars, c => !chars.contains c
  | union left right, c => left.holds c || right.holds c
  | complement inner, c => !inner.holds c

/-- The ASCII letters in either case. -/
def asciiLetter : CharClass :=
  among ("ABCDEFGHIJKLMNOPQRSTUVWXYZabcdefghijklmnopqrstuvwxyz".toList)

/-- The ASCII capitals. -/
def asciiCapital : CharClass :=
  among ("ABCDEFGHIJKLMNOPQRSTUVWXYZ".toList)

/-- The ASCII digits. -/
def asciiDigit : CharClass :=
  among ("0123456789".toList)

@[simp]
theorem holds_exactly (d c : Char) : (exactly d).holds c = true ↔ c = d := by
  simp [holds]

@[simp]
theorem holds_visible (c : Char) : visible.holds c = true ↔ c ≠ '\n' := by
  simp [holds]

@[simp]
theorem holds_among (chars : List Char) (c : Char) :
    (among chars).holds c = true ↔ c ∈ chars := by
  simp [holds]

@[simp]
theorem holds_outside (chars : List Char) (c : Char) :
    (outside chars).holds c = true ↔ c ∉ chars := by
  simp [holds]

@[simp]
theorem holds_union (left right : CharClass) (c : Char) :
    (union left right).holds c = true ↔ left.holds c = true ∨ right.holds c = true := by
  simp [holds]

@[simp]
theorem holds_complement (inner : CharClass) (c : Char) :
    (complement inner).holds c = true ↔ inner.holds c = false := by
  simp [holds]

end CharClass
end BranchFold
