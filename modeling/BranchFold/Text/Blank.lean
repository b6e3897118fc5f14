/-!
# Blank characters, trimming and indentation

One notion of blank serves trimming, indentation and the patterns: the characters that separate
words or lines in any script.  The zero-width space and the byte order mark are not blank.
-/

namespace BranchFold

/-- A piece of text, as the list of its characters. -/
abbrev Text := List Char

/-- One line of a document, without its terminator. -/
abbrev Line := Text

namespace Text

/-- A character that separates words or lines. -/
def isBlank (c : Char) : Bool :=
  let code := c.toNat
  (9 ≤ code && code ≤ 13) || (28 ≤ code && code ≤ 32) || code == 0x85 || code == 0xA0 ||
    code == 0x1680 || (0x2000 ≤ code && code ≤ 0x200A) || code == 0x2028 || code == 0x2029 ||
    code == 0x202F || code == 0x205F || code == 0x3000

/-- The text without its leading blanks. -/
def trimStart (text : Text) : Text :=
  text.dropWhile isBlank

/-- The text without its trailing blanks. -/
def trimEnd (text : Text) : Text :=
  (text.reverse.dropWhile isBlank).reverse

/-- The text without its leading and trailing blanks. -/
def trim (text : Text) : Text :=
  trimEnd (trimStart text)

/-- The number of leading blanks; a tab counts as one. -/
def indent (line : Line) : Nat :=
  (line.takeWhile isBlank).length

/-- The text begins with the given opening. -/
def startsWith (text opening : Text) : Bool :=
  opening.isPrefixOf text

/-- The part occurs somewhere in the text. -/
def hasPart (text part : Text) : Bool :=
  match text with
  | [] => part.isEmpty
  | c :: rest => startsWith (c :: rest) part || hasPart rest part

@[simp]
theorem trim_nil : trim [] = [] := rfl

@[simp]
theorem indent_nil : indent [] = 0 := rfl

/-- The indentation and the text after it make up the line. -/
theorem indent_add_length_trimStart (line : Line) :
    indent line + (trimStart line).length = line.length := by
  rw [indent, trimStart, ← List.length_append, List.takeWhile_append_dropWhile]

/-- Every text begins with the empty opening. -/
@[simp]
theorem startsWith_nil (text : Text) : startsWith text [] = true := by
  simp [startsWith]

/-- Beginning with an opening means being that opening and a rest. -/
theorem startsWith_iff (text opening : Text) :
    startsWith text opening = true ↔ ∃ rest, text = opening ++ rest := by
  rw [startsWith, List.isPrefixOf_iff_prefix]
  exact ⟨fun ⟨rest, h⟩ => ⟨rest, h.symm⟩, fun ⟨rest, h⟩ => ⟨rest, h.symm⟩⟩

end Text
end BranchFold
