import BranchFold.Text.Blank

/-!
# Control sequences of terminals

A terminal is told to change colours or to move its cursor by control sequences inside the text that
it shows: an escape character and an opening bracket, parameters, intermediate characters, and one
character that ends the sequence.  Where text goes elsewhere they are left out.

Main definitions:

- {lit}`Text.sequenceLength?`: the length of the control sequence with which a text starts.
- {lit}`Text.withoutSequences`: the text without its control sequences.

Main statements:

- {lit}`withoutSequences_of_notMem`: a text without an escape character stays as it is.
- {lit}`withoutSequences_sublist`: nothing is added and nothing changes its place.
-/

namespace BranchFold
namespace Text

/-- The character that introduces a control sequence. -/
def escape : Char := '\x1b'

/-- A parameter of a control sequence. -/
def isParameter (c : Char) : Bool :=
  '0' ≤ c && c ≤ '?'

/-- A character between the parameters and the end of a control sequence. -/
def isIntermediate (c : Char) : Bool :=
  ' ' ≤ c && c ≤ '/'

/-- A character that ends a control sequence. -/
def isFinal (c : Char) : Bool :=
  '@' ≤ c && c ≤ '~'

/-- The length of the control sequence with which a text starts, if it does. -/
def sequenceLength? : Text → Option Nat
  | first :: '[' :: rest =>
      let parameters := rest.takeWhile isParameter
      let afterParameters := rest.drop parameters.length
      let intermediates := afterParameters.takeWhile isIntermediate
      match afterParameters.drop intermediates.length with
      | last :: _ =>
          if first == escape && isFinal last then
            some (parameters.length + intermediates.length + 3)
          else none
      | [] => none
  | _ => none

/-- The text without its control sequences, the first of which has so many characters left. -/
def dropSequences (left : Nat) : Text → Text
  | [] => []
  | c :: rest =>
      match left with
      | more + 1 => dropSequences more rest
      | 0 =>
          match sequenceLength? (c :: rest) with
          | some length => dropSequences (length - 1) rest
          | none => c :: dropSequences 0 rest

/-- The text without its control sequences. -/
def withoutSequences (text : Text) : Text :=
  dropSequences 0 text

/-! ## Laws -/

@[simp]
theorem dropSequences_nil (left : Nat) : dropSequences left [] = [] := by
  simp [dropSequences]

/-- A control sequence starts with the escape character. -/
theorem sequenceLength?_cons_of_ne {c : Char} (rest : Text) (h : c ≠ escape) :
    sequenceLength? (c :: rest) = none := by
  unfold sequenceLength?
  split
  · next first more heq =>
    obtain ⟨rfl, -⟩ := List.cons.inj heq
    dsimp only
    split
    · simp [h]
    · rfl
  · rfl

/-- A text without an escape character stays as it is. -/
theorem withoutSequences_of_notMem {text : Text} (h : escape ∉ text) :
    withoutSequences text = text := by
  unfold withoutSequences
  induction text with
  | nil => rfl
  | cons c rest ih =>
    have hc : c ≠ escape := fun heq => h (by simp [heq])
    have hrest : escape ∉ rest := fun hmem => h (List.mem_cons_of_mem c hmem)
    simp [dropSequences, sequenceLength?_cons_of_ne rest hc, ih hrest]

/-- Nothing is added and nothing changes its place. -/
theorem dropSequences_sublist (left : Nat) (text : Text) :
    (dropSequences left text).Sublist text := by
  induction text generalizing left with
  | nil => simp
  | cons c rest ih =>
    unfold dropSequences
    split
    · exact (ih _).cons c
    · split
      · exact (ih _).cons c
      · exact (ih 0).cons_cons c

/-- Nothing is added and nothing changes its place. -/
theorem withoutSequences_sublist (text : Text) : (withoutSequences text).Sublist text :=
  dropSequences_sublist 0 text

end Text
end BranchFold
