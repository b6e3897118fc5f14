import BranchFold.Proofs.Turns

/-!
# Blocks are the matching of the changes of indentation

The nesting keeps a stack of open blocks and pops it at every fall of the indentation, if there is
anything to pop.  This module proves that the stack before any line holds exactly the rises that no
fall has matched so far, each at the depth to which the word after it has climbed.  The blocks of a
document are therefore the matched pairs of rises and falls, for every indentation whatsoever.

Main definitions:

- {lit}`Document.nestingBefore`, {lit}`Document.closedAt?`: the state before a line, and the block
  that the line closes.
- {lit}`Document.Matches`: a rise and the fall that matches it.

Main results:

- Theorem {lit}`Document.blocks_eq_filterMap`: the blocks, line by line.
- Theorem {lit}`Document.openedBefore_getElem?_eq_some_iff`: what the stack holds before a line.
- Theorem {lit}`Document.blocks_are_matching`: the blocks are the matched pairs, each once and by
  increasing end, and the rises without a match are counted at the end.
-/

namespace BranchFold
namespace Document

variable {document : Document} {number : Nat}

/-! ## The run, line by line -/

/-- The state before the line of that number. -/
def nestingBefore (document : Document) (number : Nat) : Nesting :=
  (Nesting.root.run 0 (document.take number)).2

/-- The block that the line of that number closes, if it closes one. -/
def closedAt? (document : Document) (number : Nat) : Option Block :=
  (document[number]?).bind fun line => ((document.nestingBefore number).step number line).2

/-- The lines at which the blocks began that are open before the line, innermost first. -/
def openedBefore (document : Document) (number : Nat) : List Nat :=
  (document.nestingBefore number).opened

@[simp]
theorem nestingBefore_zero (document : Document) :
    document.nestingBefore 0 = Nesting.root := by
  simp [nestingBefore]

/-- One more line: its block comes last, and its state is the new state. -/
theorem run_take_succ {line : Line} (hline : document[number]? = some line) :
    Nesting.root.run 0 (document.take (number + 1)) =
      ((Nesting.root.run 0 (document.take number)).1 ++ (document.closedAt? number).toList,
        ((document.nestingBefore number).step number line).1) := by
  have hlength : (document.take number).length = number := by
    have := (List.getElem?_eq_some_iff.1 hline).1
    rw [List.length_take]
    omega
  rw [List.take_add_one, hline, Option.toList_some, Nesting.run_append, hlength]
  simp [Nesting.run, nestingBefore, closedAt?, hline]

/-- The state after a line. -/
theorem nestingBefore_succ {line : Line} (hline : document[number]? = some line) :
    document.nestingBefore (number + 1) = ((document.nestingBefore number).step number line).1 := by
  rw [nestingBefore, run_take_succ hline]

/-- Behind the last line nothing changes. -/
theorem nestingBefore_succ_of_length_le (h : document.length ≤ number) :
    document.nestingBefore (number + 1) = document.nestingBefore number := by
  rw [nestingBefore, nestingBefore, List.take_of_length_le h, List.take_of_length_le (by omega)]

/-- The blocks that close among the first lines. -/
theorem run_take_fst (document : Document) (number : Nat) (h : number ≤ document.length) :
    (Nesting.root.run 0 (document.take number)).1 =
      (List.range number).filterMap document.closedAt? := by
  induction number with
  | zero => simp
  | succ number ih =>
    have hline : document[number]? = some document[number] := List.getElem?_eq_getElem (by omega)
    rw [run_take_succ hline, ih (by omega), List.range_succ, List.filterMap_append]
    cases hclosed : document.closedAt? number <;> simp [hclosed]

/-- The blocks of a document, line by line. -/
theorem blocks_eq_filterMap (document : Document) :
    document.blocks = (List.range document.length).filterMap document.closedAt? := by
  have h := run_take_fst document document.length le_rfl
  rwa [List.take_length] at h

/-- The blocks that stay open are those open behind the last line. -/
theorem stillOpen_eq (document : Document) :
    document.stillOpen = (document.openedBefore document.length).length := by
  rw [openedBefore, nestingBefore, List.take_length, stillOpen]

/-! ## One line by the step that it makes -/

/-- The open blocks after a line that makes the given step. -/
def openedAfter (number : Nat) : Option DyckStep → List Nat → List Nat
  | none, opened => opened
  | some .U, opened => number :: opened
  | some .D, opened => opened.tail

/-- The block that a line closes if it makes the given step from the given level. -/
def closedBy (number level : Nat) : Option DyckStep → List Nat → Option Block
  | some .D, opened => opened.head?.map fun first : Nat => ⟨first, number - 1, level⟩
  | _, _ => none

/-- A line with code acts on the state by the step that it makes. -/
theorem enter_eq (state : Nesting) (number indent : Nat) :
    state.enter number indent =
      (⟨indent, openedAfter number (stepTo? state.level indent) state.opened⟩,
        closedBy number state.level (stepTo? state.level indent) state.opened) := by
  rcases state with ⟨level, opened⟩
  unfold Nesting.enter stepTo?
  by_cases hup : level < indent
  · simp [hup, openedAfter, closedBy]
  · by_cases hdown : indent < level
    · cases opened <;> simp [hup, hdown, openedAfter, closedBy]
    · have hsame : level = indent := by omega
      simp [hsame, openedAfter, closedBy]

/-- The state before a line is the level before it and the open blocks before it. -/
theorem nestingBefore_eq (document : Document) (number : Nat) :
    document.nestingBefore number =
      ⟨document.levelBefore number, document.openedBefore number⟩ := by
  suffices hlevel : (document.nestingBefore number).level = document.levelBefore number by
    rw [← hlevel]
    rfl
  induction number with
  | zero => simp [Nesting.root]
  | succ number ih =>
    by_cases hlt : number < document.length
    · have hline : document[number]? = some document[number] := List.getElem?_eq_getElem hlt
      rw [nestingBefore_succ hline, levelBefore_succ hline, Nesting.step]
      cases hskip : isSkippable codeMarkers document[number] with
      | true => simpa [isSignificant, hskip] using ih
      | false => simp [isSignificant, hskip, enter_eq]
    · rw [nestingBefore_succ_of_length_le (by omega), levelBefore_succ_of_length_le (by omega), ih]

/-- A line of the document acts on the state by the step that it makes. -/
theorem step_eq {line : Line} (hline : document[number]? = some line) :
    (document.nestingBefore number).step number line =
      (⟨document.levelBefore (number + 1),
          openedAfter number (document.turn? number) (document.openedBefore number)⟩,
        closedBy number (document.levelBefore number) (document.turn? number)
          (document.openedBefore number)) := by
  rw [nestingBefore_eq, Nesting.step, levelBefore_succ hline, turn?_of_line hline]
  cases hskip : isSkippable codeMarkers line with
  | true => simp [isSignificant, hskip, openedAfter, closedBy]
  | false => simp [isSignificant, hskip, enter_eq]

@[simp]
theorem openedBefore_zero (document : Document) : document.openedBefore 0 = [] := by
  simp [openedBefore, Nesting.root]

/-- The open blocks change by the step of each line. -/
theorem openedBefore_succ (document : Document) (number : Nat) :
    document.openedBefore (number + 1) =
      openedAfter number (document.turn? number) (document.openedBefore number) := by
  by_cases hlt : number < document.length
  · have hline : document[number]? = some document[number] := List.getElem?_eq_getElem hlt
    rw [openedBefore, nestingBefore_succ hline, step_eq hline]
  · have hnone : document.turn? number = none := by
      simp [turn?, List.getElem?_eq_none (Nat.le_of_not_lt hlt)]
    rw [hnone, openedBefore, nestingBefore_succ_of_length_le (by omega)]
    rfl

/-- The block that a line closes is determined by its step and the open blocks. -/
theorem closedAt?_eq (document : Document) (number : Nat) :
    document.closedAt? number =
      closedBy number (document.levelBefore number) (document.turn? number)
        (document.openedBefore number) := by
  by_cases hlt : number < document.length
  · have hline : document[number]? = some document[number] := List.getElem?_eq_getElem hlt
    rw [closedAt?, hline, Option.bind_some, step_eq hline]
  · simp [closedAt?, turn?, List.getElem?_eq_none (Nat.le_of_not_lt hlt), closedBy]

/-! ## What the stack holds -/

/-- A rise that no fall before the given line has matched, with so many open rises after it. -/
@[mk_iff openAt_iff]
structure OpenAt (document : Document) (number first depth : Nat) : Prop where
  lt : first < number
  up : document.turn? first = some .U
  climbs : Climbs (document.turnsBetween first number) depth

/-- A rise and the fall that matches it: between them the word is balanced. -/
structure Matches (document : Document) (first stop : Nat) : Prop where
  lt : first < stop
  up : document.turn? first = some .U
  down : document.turn? stop = some .D
  balanced : IsBalanced (document.turnsBetween first stop)

/-- Before the first line nothing is open. -/
theorem not_openAt_zero {first depth : Nat} : ¬ document.OpenAt 0 first depth := by
  intro h
  exact absurd h.lt (Nat.not_lt_zero first)

/-- What is open after a line is judged by the word with the step of that line; a rise on the line
itself is open with nothing after it. -/
theorem openAt_succ_iff {first depth : Nat} :
    document.OpenAt (number + 1) first depth ↔
      (first < number ∧ document.turn? first = some .U ∧
        Climbs (document.turnsBetween first number ++ (document.turn? number).toList) depth) ∨
      (first = number ∧ document.turn? number = some .U ∧ depth = 0) := by
  rw [openAt_iff]
  constructor
  · intro hgiven
    rcases hgiven with ⟨hlt, hup, hclimbs⟩
    rcases Nat.lt_succ_iff_lt_or_eq.1 hlt with hfirst | rfl
    · rw [turnsBetween_succ document hfirst] at hclimbs
      exact Or.inl ⟨hfirst, hup, hclimbs⟩
    · rw [turnsBetween_self_succ, Climbs.nil_iff] at hclimbs
      exact Or.inr ⟨rfl, hup, hclimbs⟩
  · intro hgiven
    rcases hgiven with ⟨hfirst, hup, hclimbs⟩ | ⟨rfl, hup, rfl⟩
    · rw [← turnsBetween_succ document hfirst] at hclimbs
      exact ⟨by omega, hup, hclimbs⟩
    · exact ⟨by omega, hup, by simp [Climbs.nil_iff]⟩

/-- A line that makes no step changes nothing. -/
theorem openAt_succ_of_none {first depth : Nat} (hturn : document.turn? number = none) :
    document.OpenAt (number + 1) first depth ↔ document.OpenAt number first depth := by
  rw [openAt_succ_iff, openAt_iff, hturn]
  simp

/-- A rise is the innermost open rise after its line. -/
theorem openAt_succ_zero_of_up {first : Nat} (hturn : document.turn? number = some .U) :
    document.OpenAt (number + 1) first 0 ↔ first = number := by
  rw [openAt_succ_iff, hturn]
  simp [Climbs.not_concat_up_zero]

/-- A rise puts every open rise one deeper. -/
theorem openAt_succ_succ_of_up {first depth : Nat} (hturn : document.turn? number = some .U) :
    document.OpenAt (number + 1) first (depth + 1) ↔ document.OpenAt number first depth := by
  rw [openAt_succ_iff, openAt_iff, hturn]
  simp [Climbs.concat_up_iff]

/-- A fall matches the innermost open rise and puts every other one higher. -/
theorem openAt_succ_of_down {first depth : Nat} (hturn : document.turn? number = some .D) :
    document.OpenAt (number + 1) first depth ↔ document.OpenAt number first (depth + 1) := by
  rw [openAt_succ_iff, openAt_iff, hturn]
  simp [Climbs.concat_down_iff]

/-- Before every line the stack holds exactly the open rises, each at its depth. -/
theorem openedBefore_getElem?_eq_some_iff (document : Document) (number first depth : Nat) :
    (document.openedBefore number)[depth]? = some first ↔
      document.OpenAt number first depth := by
  -- One line changes the stack and the depths of the open rises in the same way.
  induction number generalizing first depth with
  | zero => simp [not_openAt_zero]
  | succ number ih =>
    rw [openedBefore_succ]
    rcases hturn : document.turn? number with _ | step
    · rw [openAt_succ_of_none hturn]
      exact ih first depth
    · cases step with
      | U =>
        cases depth with
        | zero =>
          rw [openAt_succ_zero_of_up hturn]
          simp [openedAfter, eq_comm]
        | succ depth =>
          rw [openAt_succ_succ_of_up hturn]
          simpa [openedAfter] using ih first depth
      | D =>
        rw [openAt_succ_of_down hturn]
        simpa [openedAfter] using ih first (depth + 1)

/-! ## Blocks as matched pairs -/

/-- A line closes the block of the rise that it matches. -/
theorem closedAt?_eq_some_iff {block : Block} :
    document.closedAt? number = some block ↔
      ∃ first : Nat, document.Matches first number ∧
        block = ⟨first, number - 1, document.levelBefore number⟩ := by
  rw [closedAt?_eq]
  constructor
  · intro h
    rcases hturn : document.turn? number with _ | _ | _
    · simp [hturn, closedBy] at h
    · simp [hturn, closedBy] at h
    · simp only [hturn, closedBy, Option.map_eq_some_iff] at h
      rcases h with ⟨first, hfirst, rfl⟩
      rw [List.head?_eq_getElem?, openedBefore_getElem?_eq_some_iff] at hfirst
      exact ⟨first, ⟨hfirst.lt, hfirst.up, hturn, (climbs_zero_iff _).1 hfirst.climbs⟩, rfl⟩
  · intro hgiven
    rcases hgiven with ⟨first, hmatches, rfl⟩
    have hopen : document.OpenAt number first 0 :=
      ⟨hmatches.lt, hmatches.up, (climbs_zero_iff _).2 hmatches.balanced⟩
    rw [← openedBefore_getElem?_eq_some_iff, ← List.head?_eq_getElem?] at hopen
    simp [hmatches.down, closedBy, hopen]

/-- The blocks are the matched pairs, each with the level before its fall. -/
theorem mem_blocks_iff {block : Block} :
    block ∈ document.blocks ↔
      ∃ first last : Nat, document.Matches first (last + 1) ∧
        block = ⟨first, last, document.levelBefore (last + 1)⟩ := by
  rw [blocks_eq_filterMap, List.mem_filterMap]
  constructor
  · intro hgiven
    rcases hgiven with ⟨number, -, hclosed⟩
    rcases closedAt?_eq_some_iff.1 hclosed with ⟨first, hmatches, rfl⟩
    obtain ⟨last, rfl⟩ : ∃ last, number = last + 1 :=
      Nat.exists_eq_succ_of_ne_zero (Nat.ne_zero_of_lt hmatches.lt)
    exact ⟨first, last, hmatches, by simp⟩
  · intro hgiven
    rcases hgiven with ⟨first, last, hmatches, rfl⟩
    refine ⟨last + 1, List.mem_range.2 (lt_length_of_turn? hmatches.down), ?_⟩
    exact closedAt?_eq_some_iff.2 ⟨first, hmatches, by simp⟩

/-- Blocks come by strictly increasing end. -/
theorem blocks_pairwise_last_lt (document : Document) :
    document.blocks.Pairwise fun earlier later => earlier.last < later.last := by
  rw [blocks_eq_filterMap]
  refine List.Pairwise.filterMap _ ?_ List.pairwise_lt_range
  intro number number' hlt earlier hearlier later hlater
  rcases closedAt?_eq_some_iff.1 hearlier with ⟨_, -, rfl⟩
  rcases closedAt?_eq_some_iff.1 hlater with ⟨_, -, rfl⟩
  simpa using hlt

/-- No block comes twice. -/
theorem blocks_nodup (document : Document) : document.blocks.Nodup := by
  refine (blocks_pairwise_last_lt document).imp ?_
  rintro earlier later hlt rfl
  exact lt_irrefl _ hlt

/-! ## Rises without a match -/

/-- Up to every line, each rise is either still open or the start of a block. -/
theorem length_openedBefore_add (document : Document) (number : Nat) :
    (document.openedBefore number).length +
        ((List.range number).filterMap document.closedAt?).length =
      (List.range number).countP fun i => document.turn? i = some .U := by
  induction number with
  | zero => simp
  | succ number ih =>
    rw [List.range_succ, List.filterMap_append, List.countP_append, openedBefore_succ, ← ih,
      List.length_append]
    rcases hturn : document.turn? number with _ | _ | _
    · simp [closedAt?_eq, hturn, openedAfter, closedBy]
    · simp [closedAt?_eq, hturn, openedAfter, closedBy]
      omega
    · -- The pop takes away exactly the block that it closes, and nothing if none is open.
      rcases hopened : document.openedBefore number with _ | ⟨first, outer⟩
      · simp [closedAt?_eq, hturn, hopened, openedAfter, closedBy]
      · simp [closedAt?_eq, hturn, hopened, openedAfter, closedBy]
        omega

/-- Every rise is either still open at the end or the start of a block. -/
theorem stillOpen_add_length_blocks (document : Document) :
    document.stillOpen + document.blocks.length = document.upCount := by
  rw [stillOpen_eq, blocks_eq_filterMap]
  exact length_openedBefore_add document document.length

/-- The note names the number of blocks that stay open, unless there are none. -/
theorem openNote_eq (document : Document) :
    document.openNote =
      if document.stillOpen = 0 then none
      else some (toString document.stillOpen ++ " block(s) still open at end of input") := by
  unfold openNote
  split
  · next hzero => simp [hzero]
  · next hne => rw [if_neg (fun hzero => hne hzero)]

/-! ## The matching -/

/--
The blocks of a document are exactly the matched pairs of a rise and a fall of its indentation: the
word between the two is balanced, and the level of the block is that before the fall.  Every block
comes once, blocks come by strictly increasing end, and the note at the end of the document counts
the rises that begin no block.
-/
theorem blocks_are_matching (document : Document) :
    (∀ block : Block, block ∈ document.blocks ↔
      ∃ first last : Nat, document.Matches first (last + 1) ∧
        block = ⟨first, last, document.levelBefore (last + 1)⟩) ∧
    document.blocks.Nodup ∧
    (document.blocks.Pairwise fun earlier later => earlier.last < later.last) ∧
    document.blocks.length ≤ document.upCount ∧
    document.openNote =
      if document.upCount - document.blocks.length = 0 then none
      else some (toString (document.upCount - document.blocks.length) ++
        " block(s) still open at end of input") := by
  have hcount := stillOpen_add_length_blocks document
  have hopen : document.upCount - document.blocks.length = document.stillOpen := by omega
  refine ⟨fun block => mem_blocks_iff, blocks_nodup document, blocks_pairwise_last_lt document,
    by omega, ?_⟩
  rw [hopen, openNote_eq]

end Document
end BranchFold
