import BranchFold.Document.Block
import Mathlib.Combinatorics.Enumerative.DyckWord

/-!
# Changes of indentation as a word

The indentation of a document rises and falls from one significant line to the next.  Each rise is
a step up and each fall a step down, however many levels it spans, so a document spells a word of
steps.  This module defines that word without reference to any stack.

Main definitions:

- {lit}`Document.levelBefore`: the indentation that a line is compared with.
- {lit}`Document.turn?`: the step that a line makes.
- {lit}`Document.turnsBetween`: the word strictly between two lines.
- {lit}`IsBalanced`: as many steps down as up, and never more down than up.

Main results:

- Theorem {lit}`Climbs.concat_down_iff`: a step down gives back one unit of height.
- Theorem {lit}`Document.turnsBetween_succ`: the word grows by the step of the line that is passed.
-/

namespace BranchFold

/-! ## Words of steps -/

/-- Equally many steps up and down, and no beginning with more steps down than up. -/
def IsBalanced (word : List DyckStep) : Prop :=
  word.count .U = word.count .D ∧ ∀ start ∈ word.inits, start.count .D ≤ start.count .U

instance (word : List DyckStep) : Decidable (IsBalanced word) :=
  inferInstanceAs (Decidable (_ ∧ _))

/-- The word ends at the given height above its start and never falls below its start. -/
structure Climbs (word : List DyckStep) (height : Nat) : Prop where
  count_eq : word.count .U = word.count .D + height
  start_le : ∀ start ∈ word.inits, start.count .D ≤ start.count .U

/-- Balanced words are the climbs that end where they began. -/
theorem climbs_zero_iff (word : List DyckStep) : Climbs word 0 ↔ IsBalanced word := by
  constructor
  · intro h
    exact ⟨by simpa using h.count_eq, h.start_le⟩
  · intro h
    exact ⟨by simpa using h.1, h.2⟩

namespace Climbs

variable {word : List DyckStep} {height : Nat}

/-- The empty word stays at its start. -/
theorem nil_iff : Climbs [] height ↔ height = 0 := by
  constructor
  · intro h
    simpa using h.count_eq.symm
  · intro heq
    subst heq
    exact ⟨rfl, by simp⟩

/-- A beginning of a climb has no more steps down than up. -/
theorem count_le_of_start {start : List DyckStep} (h : Climbs word height)
    (hstart : start <+: word) : start.count .D ≤ start.count .U :=
  h.start_le start ((List.mem_inits start word).2 hstart)

/-- One more step keeps a climb a climb as long as the end does not lie below the start. -/
theorem concat_iff (step : DyckStep) :
    Climbs (word ++ [step]) height ↔
      (word ++ [step]).count .U = (word ++ [step]).count .D + height ∧
        ∀ start ∈ word.inits, start.count .D ≤ start.count .U := by
  constructor
  · intro hgiven
    rcases hgiven with ⟨hcount, hstart⟩
    refine ⟨hcount, fun start hmem => hstart start ?_⟩
    rw [List.inits_append]
    exact List.mem_append_left _ hmem
  · intro hgiven
    rcases hgiven with ⟨hcount, hstart⟩
    refine ⟨hcount, fun start hmem => ?_⟩
    rw [List.inits_append, List.mem_append] at hmem
    rcases hmem with hmem | hmem
    · exact hstart start hmem
    · have hwhole : start = word ++ [step] := by
        simpa [List.inits] using hmem
      rw [hwhole]
      omega

/-- After a step up the height is not zero. -/
theorem not_concat_up_zero : ¬ Climbs (word ++ [.U]) 0 := by
  intro h
  have hwhole := h.count_eq
  have hword := h.count_le_of_start (List.prefix_append word [.U])
  simp at hwhole
  omega

/-- A step up adds one unit of height. -/
theorem concat_up_iff : Climbs (word ++ [.U]) (height + 1) ↔ Climbs word height := by
  rw [concat_iff]
  constructor
  · intro hgiven
    rcases hgiven with ⟨hcount, hstart⟩
    exact ⟨by simp at hcount; omega, hstart⟩
  · intro hgiven
    rcases hgiven with ⟨hcount, hstart⟩
    exact ⟨by simp; omega, hstart⟩

/-- A step down gives back one unit of height, which must be there. -/
theorem concat_down_iff : Climbs (word ++ [.D]) height ↔ Climbs word (height + 1) := by
  rw [concat_iff]
  constructor
  · intro hgiven
    rcases hgiven with ⟨hcount, hstart⟩
    exact ⟨by simp at hcount; omega, hstart⟩
  · intro hgiven
    rcases hgiven with ⟨hcount, hstart⟩
    exact ⟨by simp; omega, hstart⟩

end Climbs

namespace Document

/-! ## The step that a line makes -/

/-- The line takes part in the nesting. -/
def isSignificant (line : Line) : Bool :=
  !isSkippable codeMarkers line

/-- The indentation of the last significant line; zero if there is none. -/
def level (document : Document) : Nat :=
  (((document.filter isSignificant).getLast?).map Text.indent).getD 0

/-- The indentation of the last significant line before the line of that number. -/
def levelBefore (document : Document) (number : Nat) : Nat :=
  level (document.take number)

/-- The step from one indentation to another: up to a deeper one, down to a lesser one. -/
def stepTo? (level indent : Nat) : Option DyckStep :=
  if level < indent then some .U
  else if indent < level then some .D
  else none

/-- The step that a line makes from the indentation of the last significant line before it.  Lines
that are not significant make none. -/
def turn? (document : Document) (number : Nat) : Option DyckStep :=
  (document[number]?).bind fun line =>
    if isSignificant line then stepTo? (document.levelBefore number) (Text.indent line) else none

/-- The word of the lines strictly between two lines. -/
def turnsBetween (document : Document) (first stop : Nat) : List DyckStep :=
  (List.range' (first + 1) (stop - (first + 1))).filterMap document.turn?

/-- The number of lines that make a step up. -/
def upCount (document : Document) : Nat :=
  (List.range document.length).countP fun number => document.turn? number = some .U

@[simp]
theorem levelBefore_zero (document : Document) : document.levelBefore 0 = 0 := by
  simp [levelBefore, level]

/-- A significant line sets the level, and any other line keeps it. -/
theorem level_concat (document : Document) (line : Line) :
    level (document ++ [line]) =
      if isSignificant line then Text.indent line else level document := by
  cases hline : isSignificant line <;> simp [level, List.filter_append, hline]

/-- The level after a line. -/
theorem levelBefore_succ {document : Document} {number : Nat} {line : Line}
    (hline : document[number]? = some line) :
    document.levelBefore (number + 1) =
      if isSignificant line then Text.indent line else document.levelBefore number := by
  rw [levelBefore, List.take_add_one, hline, Option.toList_some, level_concat]
  rfl

/-- The level behind the last line stays. -/
theorem levelBefore_succ_of_length_le {document : Document} {number : Nat}
    (h : document.length ≤ number) :
    document.levelBefore (number + 1) = document.levelBefore number := by
  rw [levelBefore, levelBefore, List.take_of_length_le h, List.take_of_length_le (by omega)]

/-- The step of a line of the document. -/
theorem turn?_of_line {document : Document} {number : Nat} {line : Line}
    (hline : document[number]? = some line) :
    document.turn? number =
      if isSignificant line then stepTo? (document.levelBefore number) (Text.indent line)
      else none := by
  simp [turn?, hline]

/-- Only lines of the document make steps. -/
theorem lt_length_of_turn? {document : Document} {number : Nat} {step : DyckStep}
    (h : document.turn? number = some step) : number < document.length := by
  by_contra hge
  have hnone : document[number]? = none := List.getElem?_eq_none (by omega)
  simp [turn?, hnone] at h

/-- Nothing lies between a line and the next. -/
@[simp]
theorem turnsBetween_self_succ (document : Document) (number : Nat) :
    document.turnsBetween number (number + 1) = [] := by
  simp [turnsBetween]

/-- The word grows by the step of the line that is passed. -/
theorem turnsBetween_succ (document : Document) {first stop : Nat} (h : first < stop) :
    document.turnsBetween first (stop + 1) =
      document.turnsBetween first stop ++ (document.turn? stop).toList := by
  have hcount : stop + 1 - (first + 1) = (stop - (first + 1)) + 1 := by omega
  have hlast : first + 1 + (stop - (first + 1)) = stop := by omega
  rw [turnsBetween, turnsBetween, hcount, List.range'_concat, List.filterMap_append, Nat.one_mul,
    hlast]
  cases hturn : document.turn? stop <;> simp [hturn]

/-- The word up to an earlier line is a beginning of the word up to a later one. -/
theorem turnsBetween_mono (document : Document) {first middle stop : Nat} (hfirst : first < middle)
    (hmiddle : middle ≤ stop) :
    document.turnsBetween first middle <+: document.turnsBetween first stop := by
  induction stop, hmiddle using Nat.le_induction with
  | base => exact List.prefix_refl _
  | succ stop hle ih =>
    rw [turnsBetween_succ document (by omega)]
    exact ih.trans (List.prefix_append _ _)

/-- A word splits at every line on its way. -/
theorem turnsBetween_split (document : Document) {first middle stop : Nat} (hfirst : first < middle)
    (hstop : middle < stop) :
    document.turnsBetween first stop =
      document.turnsBetween first middle ++ (document.turn? middle).toList ++
        document.turnsBetween middle stop := by
  induction stop, hstop using Nat.le_induction with
  | base => rw [turnsBetween_self_succ, List.append_nil, turnsBetween_succ document hfirst]
  | succ stop hle ih =>
    rw [turnsBetween_succ document (by omega), ih, turnsBetween_succ document (by omega),
      List.append_assoc _ (document.turnsBetween middle stop)]

end Document
end BranchFold
