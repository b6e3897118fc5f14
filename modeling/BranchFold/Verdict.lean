import BranchFold.Document.Block
import BranchFold.Rule.Builtin.Table

/-!
# Judging a block

A block handles an error when the line before it is a guard, or when a line at its own indentation
leaves or reports with a failure.  With the depth gate on, a shallow block is rejected first, unless
the line before it ends in a label.

Main definitions:

- {lit}`Policy`: the settings of a judgement.
- {lit}`Verdict`: the rule that accepted a block and the line on which it did.
- {lit}`Classifier.explain`: the verdict on a block.
-/

namespace BranchFold

/-- The settings of a judgement. -/
structure Policy where
  /-- Reject shallow blocks unless they are labelled. -/
  depthGate : Bool := false
  /-- The deepest indentation that counts as shallow. -/
  depthThreshold : Int := 4
  /-- The markers of lines that are passed over inside a block. -/
  commentMarkers : List Text := Document.codeMarkers
  deriving DecidableEq, Repr

/-- Why a block was accepted. -/
structure Verdict where
  rule : String
  category : String
  line : Int
  deriving DecidableEq, Repr

/-- A line number that lies before the start of the document. -/
structure MissingLine where
  number : Int
  deriving DecidableEq, Repr

/-- The least number that any line could have. -/
def leastIndex : Int := -9223372036854775808

/-- The complaint about a line number that fits no line, or not even a word of the machine. -/
def MissingLine.message (missing : MissingLine) : String :=
  if missing.number < leastIndex then "cannot fit 'int' into an index-sized integer"
  else "list index out of range"

/-- Rules and settings, fixed for all the blocks of a judgement. -/
structure Classifier where
  rules : RuleSet := Builtin.ruleSet
  policy : Policy := {}

namespace Classifier

/-- The line before a block, which exists when the block begins inside the document or right
after it, and not at its first line. -/
def precedingLine (block : Block) (document : Document) : Option Line :=
  if 0 < block.first ∧ block.first ≤ document.length then document[(block.first - 1).toNat]?
  else none

/-- The depth gate lets the block through. -/
def passesGate (classifier : Classifier) (block : Block) (preceding : Option Line) : Bool :=
  !classifier.policy.depthGate || classifier.policy.depthThreshold < block.indent ||
    preceding.any fun line => (classifier.rules.firstMatch line .gate).isSome

/-- The content rule that accepts the line as part of a block of the given indentation; skippable
lines and the lines of blocks inside the block are passed over. -/
def contentRule (classifier : Classifier) (indent : Int) (line : Line) : Option Rule :=
  if Document.isSkippable classifier.policy.commentMarkers line then none
  else if indent < Text.indent line then none
  else classifier.rules.firstMatch line .content

/-- The first verdict by content among so many lines from the given number on. -/
def scanContent (classifier : Classifier) (indent : Int) (document : Document) :
    Int → Nat → Except MissingLine (Option Verdict)
  | _, 0 => .ok none
  | number, count + 1 =>
      match document.line? number with
      | none => .error ⟨number⟩
      | some line =>
          match classifier.contentRule indent line with
          | some rule => .ok (some ⟨rule.name, rule.category, number⟩)
          | none => scanContent classifier indent document (number + 1) count

/-- The number of lines of a block that lie before the end of the document. -/
def contentLength (block : Block) (document : Document) : Nat :=
  (min block.last (document.length - 1) + 1 - block.first).toNat

/-- The verdict on a block of the document, or none if the block is rejected. -/
def explain (classifier : Classifier) (block : Block) (document : Document) :
    Except MissingLine (Option Verdict) :=
  let preceding := precedingLine block document
  if classifier.passesGate block preceding then
    match preceding.bind (classifier.rules.firstMatch · .preceding) with
    | some rule => .ok (some ⟨rule.name, rule.category, block.first - 1⟩)
    | none =>
        classifier.scanContent block.indent document block.first (contentLength block document)
  else .ok none

end Classifier
end BranchFold
