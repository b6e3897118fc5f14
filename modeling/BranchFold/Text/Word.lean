import BranchFold.Text.WordTable

/-!
# Word characters

A word character is a letter or number of any script, or the underscore.  Patterns see words as
runs of such characters, and a word boundary as a place where exactly one side has one.
-/

namespace BranchFold
namespace Text

/-- An ASCII letter, in either case. -/
def isAsciiLetter (c : Char) : Bool :=
  c.isAlpha

/-- A letter or number of any script, or the underscore. -/
def isWord (c : Char) : Bool :=
  if c.toNat < 128 then c.isAlphanum || c == '_' else wordTable.holds c.toNat

/-- The underscore is a word character. -/
@[simp]
theorem isWord_underscore : isWord '_' = true := by decide

/-- A letter or digit of the ASCII range is a word character. -/
theorem isWord_of_isAlphanum {c : Char} (hascii : c.toNat < 128) (h : c.isAlphanum = true) :
    isWord c = true := by
  simp [isWord, hascii, h]

end Text
end BranchFold
