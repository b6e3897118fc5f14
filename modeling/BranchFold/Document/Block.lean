import BranchFold.Document.Lines

/-!
# Blocks by indentation

Blocks are recovered from indentation alone.  A line that is indented deeper than the line before
it opens one block, however many levels it jumps; a line that is indented less closes the block
opened last, if one is open.  Skippable lines take no part.  Blocks that are still open at the end
of the document are not reported.

Main definitions:

- {lit}`Block`: a run of lines of one indentation.
- {lit}`Nesting`: the state between two lines.
- {lit}`Document.blocks`: the blocks of a document in the order in which they close.
-/

namespace BranchFold

/-! ## Blocks -/

/--
A run of lines that begins where the indentation grows and ends where it shrinks.  Line numbers
start at zero and both ends belong to the run; callers may hand in numbers that fit no document.
-/
structure Block where
  first : Int
  last : Int
  indent : Int
  deriving DecidableEq, Repr

/-- The columns at which an editor's range over a block begins and ends. -/
structure Columns where
  first : Nat
  last : Nat
  deriving DecidableEq, Repr

namespace Block

/-- The number of lines of the block. -/
def lineCount (block : Block) : Int :=
  block.last - block.first + 1

/-- A block begins at the first column and ends after the last character of its last line. -/
def columns (block : Block) (document : Document) : Columns :=
  { first := 0
    last := if 0 ≤ block.last then ((document[block.last.toNat]?).map List.length).getD 0 else 0 }

end Block

/-! ## Nesting -/

/-- What has been seen so far: the indentation of the last line with code, and the numbers of the
lines at which the open blocks began, innermost first. -/
structure Nesting where
  level : Nat
  opened : List Nat
  deriving DecidableEq, Repr

namespace Nesting

/-- The state before the first line. -/
def root : Nesting :=
  ⟨0, []⟩

/-- The state after a line with code of the given indentation, and the block that it closes. -/
def enter (state : Nesting) (number indent : Nat) : Nesting × Option Block :=
  if state.level < indent then (⟨indent, number :: state.opened⟩, none)
  else if indent < state.level then
    match state.opened with
    | [] => (⟨indent, []⟩, none)
    | first :: outer => (⟨indent, outer⟩, some ⟨first, number - 1, state.level⟩)
  else (state, none)

/-- The state after a line, and the block that it closes. -/
def step (state : Nesting) (number : Nat) (line : Line) : Nesting × Option Block :=
  if Document.isSkippable Document.codeMarkers line then (state, none)
  else state.enter number (Text.indent line)

/-- The blocks that the lines close, and the state after them; the first line has the number. -/
def run (state : Nesting) (number : Nat) : Document → List Block × Nesting
  | [] => ([], state)
  | line :: rest =>
      let after := state.step number line
      let later := run after.1 (number + 1) rest
      (after.2.toList ++ later.1, later.2)

@[simp]
theorem run_nil (state : Nesting) (number : Nat) : state.run number [] = ([], state) := rfl

/-- Running over two parts is running over the first and then over the second. -/
theorem run_append (state : Nesting) (number : Nat) (xs ys : Document) :
    state.run number (xs ++ ys) =
      ((state.run number xs).1 ++ ((state.run number xs).2.run (number + xs.length) ys).1,
        ((state.run number xs).2.run (number + xs.length) ys).2) := by
  induction xs generalizing state number with
  | nil => simp
  | cons line rest ih =>
    simp only [List.cons_append, run, ih, List.append_assoc, List.length_cons]
    rw [Nat.add_assoc, Nat.add_comm 1 rest.length]

end Nesting

namespace Document

/-- The blocks of a document in the order in which they close. -/
def blocks (document : Document) : List Block :=
  (Nesting.root.run 0 document).1

/-- The number of blocks that are still open at the end of the document. -/
def stillOpen (document : Document) : Nat :=
  (Nesting.root.run 0 document).2.opened.length

/-- The note on blocks that are still open, if there are any. -/
def openNote (document : Document) : Option String :=
  match document.stillOpen with
  | 0 => none
  | count => some (toString count ++ " block(s) still open at end of input")

@[simp]
theorem blocks_nil : blocks [] = [] := rfl

end Document
end BranchFold
