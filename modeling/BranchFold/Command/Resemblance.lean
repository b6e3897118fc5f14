import BranchFold.Text.Order

/-!
# Words that resemble each other

A mistyped word is compared with the words that exist.  Two words resemble each other when their
longest common run, together with what the parts before it and the parts after it have in common,
covers at least three fifths of both.

Main definitions:

- {lit}`Resemblance.longestRun`: the longest run of characters that two words share.
- {lit}`Resemblance.shared`: the number of characters that two words share in order.
- {lit}`Resemblance.closest`: the words that resemble a word most.
-/

namespace BranchFold
namespace Resemblance

/-! ## Common runs -/

/-- A run of characters that two words share, and where it stands in each of them. -/
structure CommonRun where
  left : Nat
  right : Nat
  length : Nat
  deriving DecidableEq, Repr

/-- The number of characters with which both words begin. -/
def commonStart : Text → Text → Nat
  | c :: xs, d :: ys => if c == d then commonStart xs ys + 1 else 0
  | _, _ => 0

/-- The run that both words have from the given places on. -/
def runAt (xs ys : Text) (left right : Nat) : CommonRun :=
  ⟨left, right, commonStart (xs.drop left) (ys.drop right)⟩

/-- The runs of two words, by place in the first and then in the second. -/
def allRuns (xs ys : Text) : List CommonRun :=
  (List.range xs.length).flatMap fun left => (List.range ys.length).map (runAt xs ys left)

/-- The longer of two runs; of two that are equally long, the first. -/
def longer (run other : CommonRun) : CommonRun :=
  if run.length < other.length then other else run

/-- The longest run that two words share, and among the longest the first. -/
def longestRun (xs ys : Text) : CommonRun :=
  (allRuns xs ys).foldl longer ⟨0, 0, 0⟩

/-! ## Resemblance -/

/-- The number of characters that two words share: those of their longest run, and those that the
parts before it and the parts after it share. -/
def shared (xs ys : Text) : Nat :=
  let run := longestRun xs ys
  if _hrun : 0 < run.length ∧ run.left < xs.length then
    shared (xs.take run.left) (ys.take run.right) + run.length +
      shared (xs.drop (run.left + run.length)) (ys.drop (run.right + run.length))
  else 0
termination_by xs.length
decreasing_by
  · have hleft : (longestRun xs ys).left < xs.length := _hrun.2
    simp only [List.length_take]
    omega
  · have hlength : 0 < (longestRun xs ys).length := _hrun.1
    have hnonempty : 0 < xs.length := Nat.zero_lt_of_lt _hrun.2
    simp only [List.length_drop]
    omega

/-- Three fifths of the characters of both words are shared. -/
def resembles (word candidate : Text) : Bool :=
  3 * (candidate.length + word.length) ≤ 10 * shared candidate word

/-- The first candidate resembles the word more than the second does, or as much, and then does not
stand before it. -/
def isCloser (word first second : Text) : Bool :=
  let strength := shared first word * (second.length + word.length)
  let other := shared second word * (first.length + word.length)
  other < strength || (other == strength && Text.le second first)

/-- The most words that are suggested for one. -/
def mostSuggestions : Nat := 3

/-- The candidates that resemble the word most, in their own order. -/
def closest (word : Text) (candidates : List Text) : List Text :=
  Text.sort (((candidates.filter (resembles word)).mergeSort (isCloser word)).take mostSuggestions)

/-- Only words that resemble the word are suggested for it. -/
theorem resembles_of_mem_closest {word candidate : Text} {candidates : List Text}
    (h : candidate ∈ closest word candidates) : resembles word candidate = true := by
  have hsorted : candidate ∈
      ((candidates.filter (resembles word)).mergeSort (isCloser word)).take mostSuggestions := by
    simpa [closest, Text.sort] using h
  have hkept := List.mem_of_mem_take hsorted
  simp only [List.mem_mergeSort, List.mem_filter] at hkept
  exact hkept.2

end Resemblance
end BranchFold
