import BranchFold.Pattern.CharClass

/-!
# Patterns over text

A pattern describes stretches of a text by characters, conditions on the place between two
characters, sequence, choice and repetition.  Its meaning is the relation {lit}`Pattern.Spans`
between the two ends of a stretch: it says nothing about how a stretch is found, only whether there
is one, so the order in which choices are tried plays no part.

Main definitions:

- {lit}`Cursor`: a place in a text, with the text on both sides.
- {lit}`Pattern`: the patterns, as data.
- {lit}`Pattern.Spans`: the stretches that a pattern covers.
-/

namespace BranchFold

/-! ## Places in a text -/

/-- A place in a text: the characters before it, nearest first, and the characters after it. -/
structure Cursor where
  before : Text
  after : Text
  deriving DecidableEq, Repr

namespace Cursor

/-- The place before the first character. -/
def start (text : Text) : Cursor :=
  ⟨[], text⟩

/-- The text in which this is a place. -/
def text (cursor : Cursor) : Text :=
  cursor.before.reverse ++ cursor.after

/-- Is a word character next to the place on the given side? -/
def wordAt (side : Text) : Bool :=
  match side with
  | [] => false
  | c :: _ => Text.isWord c

@[simp]
theorem text_start (t : Text) : (start t).text = t := by
  simp [start, text]

/-- Stepping over a character stays in the same text. -/
@[simp]
theorem text_step (before : Text) (c : Char) (after : Text) :
    (Cursor.mk (c :: before) after).text = (Cursor.mk before (c :: after)).text := by
  simp [text]

end Cursor

/-! ## Conditions on a place -/

/-- A condition on a place that takes up no character. -/
inductive Condition where
  /-- The text starts here. -/
  | atStart
  /-- The text ends here, but for one line feed. -/
  | atEnd
  /-- A word starts or ends here. -/
  | wordEdge
  deriving DecidableEq, Repr

/-- The condition is met at the place. -/
def Condition.met : Condition → Cursor → Bool
  | atStart, cursor => cursor.before.isEmpty
  | atEnd, cursor => cursor.after.isEmpty || cursor.after == ['\n']
  | wordEdge, cursor => Cursor.wordAt cursor.before != Cursor.wordAt cursor.after

/-! ## Patterns -/

/-- A description of stretches of a text. -/
inductive Pattern where
  /-- The empty stretch. -/
  | nothing
  /-- No stretch at all. -/
  | never
  /-- One character of a class. -/
  | one (accepted : CharClass)
  /-- The empty stretch at a place that meets a condition. -/
  | place (condition : Condition)
  /-- A stretch of the first pattern and then one of the second. -/
  | andThen (first second : Pattern)
  /-- A stretch of either pattern. -/
  | either (left right : Pattern)
  /-- Any number of stretches of the pattern, one after another. -/
  | many (body : Pattern)
  deriving DecidableEq, Repr

namespace Pattern

/-- The pattern covers the stretch between the two places. -/
inductive Spans : Pattern → Cursor → Cursor → Prop where
  | nothing (x : Cursor) : Spans nothing x x
  | one {accepted : CharClass} {c : Char} (before after : Text) (h : accepted.holds c = true) :
      Spans (one accepted) ⟨before, c :: after⟩ ⟨c :: before, after⟩
  | place {condition : Condition} {x : Cursor} (h : condition.met x = true) :
      Spans (place condition) x x
  | andThen {p q : Pattern} {x y z : Cursor} (hp : Spans p x y) (hq : Spans q y z) :
      Spans (andThen p q) x z
  | left {p q : Pattern} {x y : Cursor} (h : Spans p x y) : Spans (either p q) x y
  | right {p q : Pattern} {x y : Cursor} (h : Spans q x y) : Spans (either p q) x y
  | stop {p : Pattern} (x : Cursor) : Spans (many p) x x
  | more {p : Pattern} {x y z : Cursor} (hp : Spans p x y) (hrest : Spans (many p) y z) :
      Spans (many p) x z

/-- Some stretch of the text is covered by the pattern. -/
def Occurs (p : Pattern) (text : Text) : Prop :=
  ∃ x y, x.text = text ∧ p.Spans x y

/-! ## Building patterns -/

/-- The patterns one after another. -/
def inOrder : List Pattern → Pattern
  | [] => nothing
  | [p] => p
  | p :: rest => andThen p (inOrder rest)

/-- One of the patterns. -/
def anyOf : List Pattern → Pattern
  | [] => never
  | [p] => p
  | p :: rest => either p (anyOf rest)

/-- The pattern or nothing. -/
def maybe (p : Pattern) : Pattern :=
  either p nothing

/-- One or more stretches of the pattern. -/
def oneOrMore (p : Pattern) : Pattern :=
  andThen p (many p)

/-- Exactly this character. -/
def char (c : Char) : Pattern :=
  one (.exactly c)

/-- Exactly these characters. -/
def literal (word : String) : Pattern :=
  inOrder (word.toList.map char)

/-- These characters, letters in either case. -/
def anyCase (word : String) : Pattern :=
  inOrder (word.toList.map fun c => one (if c.isAlpha then .letter c else .exactly c))

/-- One of these words, exactly. -/
def literals (words : List String) : Pattern :=
  anyOf (words.map literal)

/-- One of these words, letters in either case. -/
def anyCases (words : List String) : Pattern :=
  anyOf (words.map anyCase)

/-- One word character. -/
def wordChar : Pattern :=
  one .word

/-- Any number of word characters. -/
def wordChars : Pattern :=
  many wordChar

/-- Any number of blanks. -/
def blanks : Pattern :=
  many (one .blank)

/-- Any stretch without a line feed. -/
def anything : Pattern :=
  many (one .visible)

/-- A place where a word starts or ends. -/
def edge : Pattern :=
  place .wordEdge

/-- The start of the text. -/
def textStart : Pattern :=
  place .atStart

/-- The end of the text, but for one line feed. -/
def textEnd : Pattern :=
  place .atEnd

end Pattern
end BranchFold
