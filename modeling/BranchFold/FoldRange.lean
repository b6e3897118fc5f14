import BranchFold.Verdict

/-!
# Folding ranges

The entry point for hosts: a document goes in, and the ranges of its error-handling blocks come
out, in the order in which the blocks close.

Main definitions:

- {lit}`FoldRange`: an accepted block with the reason for its acceptance.
- {lit}`Classifier.foldRanges`: the ranges of a document.
- {lit}`Classifier.foldNotes`: what is noted for a developer on the way.
-/

namespace BranchFold

/--
A run of lines that an editor can collapse.  The range covers the block itself; the header is the
line before it, which stays visible, and is missing when the block starts the document.
-/
structure FoldRange where
  first : Int
  last : Int
  header : Option Int
  rule : String
  category : String
  deriving DecidableEq, Repr

/-- The line from which an editor folds: the header, or the first line if there is none. -/
def FoldRange.foldStart (range : FoldRange) : Int :=
  range.header.getD range.first

namespace Classifier

/-- The range of a block that was accepted. -/
def rangeOf (block : Block) (verdict : Verdict) : FoldRange :=
  { first := block.first
    last := block.last
    header := if 0 < block.first then some (block.first - 1) else none
    rule := verdict.rule
    category := verdict.category }

/-- The note on a block that was accepted; line numbers start at one. -/
def acceptedNote (block : Block) (verdict : Verdict) : String :=
  "Error-handling block " ++ toString (block.first + 1) ++ "-" ++ toString (block.last + 1) ++
    " (" ++ verdict.category ++ ": " ++ verdict.rule ++ " on line " ++
    toString (verdict.line + 1) ++ ")"

/-- The verdict on a block, where a line that is missing counts as a rejection. -/
def verdict? (classifier : Classifier) (document : Document) (block : Block) : Option Verdict :=
  (classifier.explain block document).toOption.join

/-- The accepted blocks of a document, each with its verdict. -/
def acceptedBlocks (classifier : Classifier) (document : Document) : List (Block × Verdict) :=
  document.blocks.filterMap fun block =>
    (classifier.verdict? document block).map fun verdict => (block, verdict)

/-- The ranges of the error-handling blocks of a document. -/
def foldRanges (classifier : Classifier) (document : Document) : List FoldRange :=
  (classifier.acceptedBlocks document).map fun (block, verdict) => rangeOf block verdict

/-- The notes on the blocks of a document: how many stay open, then one for each accepted. -/
def foldNotes (classifier : Classifier) (document : Document) : List String :=
  document.openNote.toList ++
    (classifier.acceptedBlocks document).map fun (block, verdict) => acceptedNote block verdict

end Classifier
end BranchFold
