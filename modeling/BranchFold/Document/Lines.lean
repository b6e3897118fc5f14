import BranchFold.Text.Blank

/-!
# Lines of a document

A line ends at a line feed, a carriage return, or both in that order.  No other character ends a
line.  A terminator at the very end of the text does not start another line.

Main definitions:

- {lit}`Document.ofText`: the lines of a text.
- {lit}`Document.line?`: a line by its number, counted from the end when negative.
- {lit}`Document.isSkippable`: blank lines and lines that begin with a marker.
-/

namespace BranchFold

/-- A document, as the list of its lines without their terminators. -/
abbrev Document := List Line

namespace Document

/-! ## Splitting -/

/-- The lines with one more character in front of the first. -/
def extendFirst (c : Char) : Document → Document
  | [] => [[c]]
  | line :: rest => (c :: line) :: rest

/-- The lines of a text. -/
def ofText : Text → Document
  | [] => []
  | '\r' :: '\n' :: rest => [] :: ofText rest
  | c :: rest => if c == '\n' || c == '\r' then [] :: ofText rest else extendFirst c (ofText rest)

@[simp]
theorem ofText_nil : ofText [] = [] := rfl

/-! ## Lines by number -/

/-- The line of that number; negative numbers count from the end. -/
def line? (document : Document) (number : Int) : Option Line :=
  if number < 0 then
    if 0 ≤ document.length + number then document[(document.length + number).toNat]? else none
  else document[number.toNat]?

/-- A natural line number counts from the start. -/
@[simp]
theorem line?_natCast (document : Document) (number : Nat) :
    document.line? number = document[number]? := by
  have hnonneg : ¬ ((number : Int) < 0) := by omega
  simp [line?, hnonneg]

/-- A line number is missing exactly when it is below the negated length or at least the length. -/
theorem line?_eq_none_iff (document : Document) (number : Int) :
    document.line? number = none ↔ number < -document.length ∨ document.length ≤ number := by
  unfold line?
  split
  · split
    · rw [List.getElem?_eq_none_iff]
      omega
    · simp
      omega
  · rw [List.getElem?_eq_none_iff]
    omega

/-! ## Lines without code -/

/-- The markers of lines that carry no code: comments and preprocessor directives. -/
def codeMarkers : List Text :=
  ["//".toList, "#".toList]

/-- A blank line, or a line that begins with one of the markers. -/
def isSkippable (markers : List Text) (line : Line) : Bool :=
  let trimmed := Text.trim line
  trimmed.isEmpty || markers.any (Text.startsWith trimmed)

/-- A blank line is skippable under all markers. -/
@[simp]
theorem isSkippable_nil (markers : List Text) : isSkippable markers [] = true := by
  simp [isSkippable]

end Document
end BranchFold
