import BranchFold.Proofs.Evidence

/-!
# Inserting a line without code

A blank line or a comment takes no part in the nesting, so inserting one moves the lines behind it
and changes nothing else.  The boundaries need care: a line that is inserted right before the fall
that closes a block becomes part of the block, and a line that is inserted right before a block
takes the place of its header.  All other blocks keep their verdict.

Main definitions:

- {lit}`movedLine`, {lit}`movedNumber`: the number of a line after an insertion.
- {lit}`Block.moved`, {lit}`Verdict.moved`, {lit}`FoldRange.moved`: the same for all numbers of a
  block, of a verdict and of a range.

Main results:

- Theorem {lit}`Nesting.run_insertIdx`: the blocks that a run closes after an insertion.
- Theorem {lit}`Classifier.contentVerdicts_insertIdx`: what the rules say on the lines of a block
  after an insertion.
- Theorem {lit}`Classifier.skippable_insertion_moves_only_numbers`: blocks, verdicts and ranges
  after an insertion.
-/

namespace BranchFold

/-! ## Numbers after an insertion -/

/-- The number of a line after another line is inserted at the position. -/
def movedLine (position number : Nat) : Nat :=
  if position ≤ number then number + 1 else number

/-- The same for numbers that are not known to be natural. -/
def movedNumber (position : Nat) (number : Int) : Int :=
  if position ≤ number then number + 1 else number

/-- The last line of a block after an insertion.  It moves with the line behind it, which closes
the block, so that a line inserted between the two becomes part of the block. -/
def movedEnd (position : Nat) (last : Int) : Int :=
  if position ≤ last + 1 then last + 1 else last

/-- The block after an insertion. -/
def Block.moved (position : Nat) (block : Block) : Block :=
  { block with first := movedNumber position block.first, last := movedEnd position block.last }

/-- The verdict after an insertion. -/
def Verdict.moved (position : Nat) (verdict : Verdict) : Verdict :=
  { verdict with line := movedNumber position verdict.line }

/-- The range after an insertion. -/
def FoldRange.moved (position : Nat) (range : FoldRange) : FoldRange :=
  { range with
    first := movedNumber position range.first
    last := movedEnd position range.last
    header := range.header.map (movedNumber position) }

theorem movedNumber_natCast (position number : Nat) :
    movedNumber position number = (movedLine position number : Int) := by
  unfold movedNumber movedLine
  split_ifs <;> omega

/-- The line before a line moves with it, unless the insertion parts the two. -/
theorem movedNumber_sub_one {position : Nat} {number : Int} (h : number ≠ position) :
    movedNumber position (number - 1) = movedNumber position number - 1 := by
  unfold movedNumber
  split_ifs <;> omega

theorem movedLine_of_lt {position number : Nat} (h : number < position) :
    movedLine position number = number := by
  unfold movedLine
  rw [if_neg (by omega)]

theorem movedLine_of_le {position number : Nat} (h : position ≤ number) :
    movedLine position number = number + 1 := by
  unfold movedLine
  rw [if_pos h]

/-- A block that is closed before the position stays where it is. -/
theorem Block.moved_of_lt {position : Nat} {block : Block} (hfirst : block.first < position)
    (hlast : block.last + 1 < position) : block.moved position = block := by
  rw [moved, movedNumber, movedEnd, if_neg (by omega), if_neg (by omega)]

/-- Every line is found under its new number. -/
theorem Document.getElem?_insertIdx_movedLine (document : Document) (position number : Nat)
    (line : Line) :
    (document.insertIdx position line)[movedLine position number]? = document[number]? := by
  by_cases hle : position ≤ number
  · rw [movedLine_of_le hle, List.getElem?_insertIdx_of_gt (by omega), Nat.add_sub_cancel]
  · rw [movedLine_of_lt (by omega), List.getElem?_insertIdx_of_lt (by omega)]

/-! ## The nesting -/

namespace Nesting

variable {state : Nesting} {position number : Nat}

/-- The state after an insertion. -/
def moved (position : Nat) (state : Nesting) : Nesting :=
  { state with opened := state.opened.map (movedLine position) }

/-- All open blocks began before the line of that number. -/
def IsBefore (state : Nesting) (number : Nat) : Prop :=
  ∀ first ∈ state.opened, first < number

theorem moved_of_isBefore (h : state.IsBefore position) : state.moved position = state := by
  have hopened : state.opened.map (movedLine position) = state.opened := by
    conv_rhs => rw [← List.map_id state.opened]
    exact List.map_congr_left fun first hfirst => movedLine_of_lt (h first hfirst)
  rw [moved, hopened]

/-- A line at or behind the position does one number later what it did before. -/
theorem step_moved (h : position ≤ number) (line : Line) :
    (state.moved position).step (number + 1) line =
      ((state.step number line).1.moved position,
        (state.step number line).2.map (Block.moved position)) := by
  rcases state with ⟨level, opened⟩
  unfold step
  split_ifs
  · rfl
  · unfold enter
    dsimp only [moved]
    by_cases hup : level < Text.indent line
    · simp [hup, movedLine_of_le h]
    · by_cases hdown : Text.indent line < level
      · cases opened with
        | nil => simp [hup, hdown]
        | cons first outer =>
          have hlast : movedEnd position ((number : Int) - 1) = number := by
            rw [movedEnd, if_pos (by omega)]
            omega
          simp [hup, hdown, Block.moved, movedNumber_natCast, hlast]
      · simp [hup, hdown]

/-- Lines at or behind the position close, one number later, the blocks that they closed before. -/
theorem run_moved (state : Nesting) (h : position ≤ number) (lines : Document) :
    ((state.moved position).run (number + 1) lines).1 =
      (state.run number lines).1.map (Block.moved position) := by
  induction lines generalizing state number with
  | nil => rfl
  | cons line rest ih =>
    have hrest := ih (state.step number line).1 (Nat.le_succ_of_le h)
    simp only [run, step_moved h, hrest, List.map_append]
    cases (state.step number line).2 <;> rfl

/-- After a line all open blocks began on it or before it, and a block that it closes lies before
it. -/
theorem step_isBefore (h : state.IsBefore number) (line : Line) :
    (state.step number line).1.IsBefore (number + 1) ∧
      ∀ block ∈ (state.step number line).2,
        block.first < number ∧ block.last + 1 = number := by
  have hlater : state.IsBefore (number + 1) := fun first hfirst =>
    Nat.lt_succ_of_lt (h first hfirst)
  rcases state with ⟨level, opened⟩
  unfold step enter
  split_ifs
  · exact ⟨hlater, by simp⟩
  · refine ⟨?_, by simp⟩
    intro first hfirst
    rcases List.mem_cons.1 hfirst with rfl | hfirst
    · omega
    · exact hlater first hfirst
  · cases opened with
    | nil => exact ⟨hlater, by simp⟩
    | cons first outer =>
      refine ⟨fun other hother => hlater other (List.mem_cons_of_mem _ hother), ?_⟩
      have hfirst := h first List.mem_cons_self
      simp
      omega
  · exact ⟨hlater, by simp⟩

/-- A run over a document with a line without code inserted closes the same blocks, moved. -/
theorem run_insertIdx {line : Line}
    (hline : Document.isSkippable Document.codeMarkers line = true) {document : Document}
    (hstate : state.IsBefore number) (hposition : position ≤ document.length) :
    (state.run number (document.insertIdx position line)).1 =
      (state.run number document).1.map (Block.moved (number + position)) := by
  -- Down to the position the two runs go side by side, and what they close there does not move.
  induction position generalizing state number document with
  | zero =>
    have hstep : state.step number line = (state, none) := by rw [step, if_pos hline]
    have hmoved := run_moved state (le_refl number) document
    rw [moved_of_isBefore hstate] at hmoved
    rw [List.insertIdx_zero, run, hstep]
    simpa using hmoved
  | succ position ih =>
    cases document with
    | nil => simp at hposition
    | cons head rest =>
      rcases step_isBefore hstate head with ⟨hnext, hclosed⟩
      have hlength : position ≤ rest.length := by simpa using hposition
      have hrest := ih hnext hlength
      have hkept : (state.step number head).2.toList.map
          (Block.moved (number + (position + 1))) = (state.step number head).2.toList := by
        conv_rhs => rw [← List.map_id (state.step number head).2.toList]
        refine List.map_congr_left fun block hblock => ?_
        rcases hclosed block (Option.mem_toList.1 hblock) with ⟨hfirst, hlast⟩
        exact Block.moved_of_lt (by omega) (by omega)
      rw [List.insertIdx_succ_cons, run, run]
      dsimp only
      rw [List.map_append, hrest, hkept, Nat.add_assoc, Nat.add_comm 1 position]

end Nesting

/-- The blocks of a document after a line without code is inserted. -/
theorem Document.blocks_insertIdx {document : Document} {position : Nat} {line : Line}
    (hposition : position ≤ document.length) (hline : isSkippable codeMarkers line = true) :
    blocks (document.insertIdx position line) = document.blocks.map (Block.moved position) := by
  have hroot : Nesting.root.IsBefore 0 := by
    intro first hfirst
    simp [Nesting.root] at hfirst
  have hrun := Nesting.run_insertIdx hline hroot hposition
  rwa [Nat.zero_add] at hrun

/-! ## The evidence -/

namespace Block

variable {block : Block} {document : Document} {position : Nat}

theorem IsWithin.moved (h : block.IsWithin document) (hposition : position ≤ document.length)
    (line : Line) : (block.moved position).IsWithin (document.insertIdx position line) := by
  have hfirst := h.first_nonneg
  have hle := h.first_le_last
  have hlast := h.last_lt
  refine ⟨?_, ?_, ?_⟩
  · unfold Block.moved movedNumber
    dsimp only
    split_ifs <;> omega
  · unfold Block.moved movedNumber movedEnd
    dsimp only
    split_ifs <;> omega
  · rw [List.length_insertIdx_of_le_length hposition]
    unfold Block.moved movedEnd
    dsimp only
    split_ifs <;> omega

/-- The lines of a block after an insertion are its own lines and possibly the new one. -/
theorem numbers_moved (h : block.IsWithin document) (position : Nat) :
    (block.moved position).numbers.filter (· ≠ position) =
      block.numbers.map (movedLine position) := by
  have hfirst := h.first_nonneg
  have hle := h.first_le_last
  -- Both lists are increasing, so it is enough that they have the same members.
  have hsorted : ((block.moved position).numbers.filter (· ≠ position)).Pairwise (· < ·) :=
    (List.pairwise_lt_range' 1 Nat.one_pos).filter _
  have hsorted' : (block.numbers.map (movedLine position)).Pairwise (· < ·) := by
    refine (List.pairwise_lt_range' 1 Nat.one_pos).map _ ?_
    intro number number' hlt
    unfold movedLine
    split_ifs <;> omega
  refine hsorted.eq_of_mem_iff hsorted' ?_
  intro number
  simp only [numbers, List.mem_filter, List.mem_map, List.mem_range'_1, decide_eq_true_eq]
  unfold Block.moved movedNumber movedEnd movedLine
  dsimp only
  constructor
  · intro hnumber
    refine ⟨if position ≤ number then number - 1 else number, ?_, ?_⟩
    · split_ifs at hnumber ⊢ <;> omega
    · split_ifs at hnumber ⊢ <;> omega
  · intro hgiven
    rcases hgiven with ⟨old, hold, rfl⟩
    split_ifs <;> omega

end Block

namespace Classifier

variable {classifier : Classifier} {document : Document} {block : Block} {position : Nat}
  {line : Line}

/-- Unless the line is inserted right before the block, the block keeps its header. -/
theorem precedingLine_insertIdx (h : block.IsWithin document)
    (hposition : position ≤ document.length) (hfirst : block.first ≠ position) (line : Line) :
    precedingLine (block.moved position) (document.insertIdx position line) =
      precedingLine block document := by
  have hlength := List.length_insertIdx_of_le_length hposition line
  have hnonneg := h.first_nonneg
  have hle := h.first_le_last
  have hlast := h.last_lt
  unfold precedingLine
  rcases hstart : block.first.toNat with _ | number
  · have hzero : (block.moved position).first = 0 := by
      unfold Block.moved movedNumber
      dsimp only
      split_ifs <;> omega
    rw [if_neg (by omega), if_neg (by omega)]
  · have hnumber : block.first = number + 1 := by omega
    have hmoved : (block.moved position).first = movedLine position number + 1 := by
      unfold Block.moved movedNumber movedLine
      dsimp only
      split_ifs <;> omega
    have hinside : movedLine position number < document.length + 1 := by
      unfold movedLine
      split_ifs <;> omega
    rw [if_pos (by omega), if_pos (by omega), hmoved, hnumber, Int.add_sub_cancel,
      Int.add_sub_cancel, Int.toNat_natCast, Int.toNat_natCast,
      Document.getElem?_insertIdx_movedLine]

/-- The rules say on a line what they said before the insertion, under its new number. -/
theorem contentVerdictAt?_insertIdx (classifier : Classifier) (indent : Int) (document : Document)
    (position number : Nat) (line : Line) :
    classifier.contentVerdictAt? indent (document.insertIdx position line)
        (movedLine position number) =
      (classifier.contentVerdictAt? indent document number).map (Verdict.moved position) := by
  rw [contentVerdictAt?, contentVerdictAt?, contentRuleAt?, contentRuleAt?,
    Document.getElem?_insertIdx_movedLine, Option.map_map]
  congr 1
  funext rule
  simp [Verdict.moved, movedNumber_natCast]

/-- No rule is asked about the new line. -/
theorem contentVerdictAt?_inserted (indent : Int)
    (hline : Document.isSkippable classifier.policy.commentMarkers line = true) :
    classifier.contentVerdictAt? indent (document.insertIdx position line) position = none := by
  rw [contentVerdictAt?, contentRuleAt?, List.getElem?_insertIdx_self]
  split_ifs
  · simp [contentRule, hline]
  · rfl

/-- The rules say on the lines of a block what they said before the insertion. -/
theorem contentVerdicts_insertIdx (h : block.IsWithin document) (indent : Int)
    (hline : Document.isSkippable classifier.policy.commentMarkers line = true) :
    classifier.contentVerdicts indent (document.insertIdx position line)
        (block.moved position).numbers =
      (classifier.contentVerdicts indent document block.numbers).map (Verdict.moved position) := by
  have hsilent : (block.moved position).numbers.filterMap
      (classifier.contentVerdictAt? indent (document.insertIdx position line)) =
        ((block.moved position).numbers.filter (· ≠ position)).filterMap
          (classifier.contentVerdictAt? indent (document.insertIdx position line)) := by
    rw [List.filterMap_filter]
    refine List.filterMap_congr ?_
    intro number _
    by_cases hnew : number = position
    · rw [hnew, contentVerdictAt?_inserted indent hline]
      simp
    · simp [hnew]
  rw [contentVerdicts, hsilent, Block.numbers_moved h, List.filterMap_map, contentVerdicts,
    List.map_filterMap]
  refine List.filterMap_congr ?_
  intro number _
  exact contentVerdictAt?_insertIdx classifier indent document position number line

/-- The judgement depends on line numbers in no other way than by reporting them. -/
theorem judge_moved (classifier : Classifier) (hfirst : block.first ≠ position)
    (header : Option Line) (content : List Verdict) :
    classifier.judge (block.moved position) header (content.map (Verdict.moved position)) =
      (classifier.judge block header content).map (Verdict.moved position) := by
  have hgate : classifier.passesGate (block.moved position) header =
      classifier.passesGate block header := rfl
  have hline : (block.moved position).first - 1 = movedNumber position (block.first - 1) :=
    (movedNumber_sub_one hfirst).symm
  unfold judge
  rw [hgate, hline]
  split_ifs
  · cases header.bind (classifier.rules.firstMatch · .preceding) with
    | some rule => rfl
    | none => rw [List.head?_map]
  · rfl

/-- Moving a block moves its range. -/
theorem rangeOf_moved (hnonneg : 0 ≤ block.first) (hfirst : block.first ≠ position)
    (verdict : Verdict) :
    rangeOf (block.moved position) (verdict.moved position) =
      (rangeOf block verdict).moved position := by
  have hpos : 0 < movedNumber position block.first ↔ 0 < block.first := by
    unfold movedNumber
    split_ifs <;> omega
  unfold rangeOf FoldRange.moved
  dsimp only [Block.moved, Verdict.moved]
  by_cases hheader : 0 < block.first
  · simp [hheader, hpos.2 hheader, movedNumber_sub_one hfirst]
  · simp [hheader, mt hpos.1 hheader]

/-- Unless the line is inserted right before it, a block keeps its verdict. -/
theorem explain_insertIdx (h : block.IsWithin document) (hposition : position ≤ document.length)
    (hline : Document.isSkippable classifier.policy.commentMarkers line = true)
    (hfirst : block.first ≠ position) :
    ∃ outcome, classifier.explain block document = .ok outcome ∧
      classifier.explain (block.moved position) (document.insertIdx position line) =
        .ok (outcome.map (Verdict.moved position)) := by
  refine ⟨_, explain_eq_judge classifier h, ?_⟩
  have hindent : (block.moved position).indent = block.indent := rfl
  rw [explain_eq_judge classifier (h.moved hposition line),
    precedingLine_insertIdx h hposition hfirst, hindent, contentVerdicts_insertIdx h _ hline,
    judge_moved classifier hfirst]

/-- Unless the line is inserted right before it, a block keeps its range. -/
theorem rangeFor?_insertIdx (h : block.IsWithin document) (hposition : position ≤ document.length)
    (hline : Document.isSkippable classifier.policy.commentMarkers line = true)
    (hfirst : block.first ≠ position) :
    classifier.rangeFor? (document.insertIdx position line) (block.moved position) =
      (classifier.rangeFor? document block).map (FoldRange.moved position) := by
  rcases explain_insertIdx h hposition hline hfirst with ⟨outcome, hbefore, hafter⟩
  rw [rangeFor?, rangeFor?, verdict?, verdict?, hbefore, hafter]
  cases outcome with
  | none => rfl
  | some verdict => exact congrArg some (rangeOf_moved h.first_nonneg hfirst verdict)

/--
Inserting a line that the nesting skips moves line numbers and does nothing else.  Every block
keeps its indentation; its start moves if it lies at the position or behind it, and its end moves
with the line that closes the block.  If the classifier passes over the line as well, then every
block that does not start at the position keeps its verdict, and when no block starts there, the
ranges are those of before, moved.
-/
theorem skippable_insertion_moves_only_numbers (document : Document) (position : Nat) (line : Line)
    (hposition : position ≤ document.length)
    (hcode : Document.isSkippable Document.codeMarkers line = true) :
    Document.blocks (document.insertIdx position line) =
        document.blocks.map (Block.moved position) ∧
      ∀ classifier : Classifier,
        Document.isSkippable classifier.policy.commentMarkers line = true →
        (∀ block ∈ document.blocks, block.first ≠ position →
          ∃ outcome, classifier.explain block document = .ok outcome ∧
            classifier.explain (block.moved position) (document.insertIdx position line) =
              .ok (outcome.map (Verdict.moved position))) ∧
        ((∀ block ∈ document.blocks, block.first ≠ position) →
          classifier.foldRanges (document.insertIdx position line) =
            (classifier.foldRanges document).map (FoldRange.moved position)) := by
  have hblocks := Document.blocks_insertIdx hposition hcode
  refine ⟨hblocks, fun classifier hline => ⟨?_, ?_⟩⟩
  · intro block hblock hfirst
    exact explain_insertIdx (Document.isWithin_of_mem_blocks hblock) hposition hline hfirst
  · intro hfree
    rw [foldRanges_eq_filterMap, foldRanges_eq_filterMap, hblocks, List.filterMap_map,
      List.map_filterMap]
    refine List.filterMap_congr ?_
    intro block hblock
    exact rangeFor?_insertIdx (Document.isWithin_of_mem_blocks hblock) hposition hline
      (hfree block hblock)

/-- A comment right before the line that closes a block becomes the last line of the block. -/
theorem insertion_before_closing_line :
    let document : Document :=
      ["if (p == NULL)".toList, "  return -1;".toList, "use(p);".toList, "  q();".toList]
    let line : Line := "// done".toList
    2 ≤ document.length ∧ Document.isSkippable Document.codeMarkers line = true ∧
      Document.blocks (document.insertIdx 2 line) = [⟨1, 2, 2⟩] ∧
      ({} : Classifier).explain ⟨1, 2, 2⟩ (document.insertIdx 2 line) =
        .ok (some ⟨"null_check", "guard", 0⟩) ∧
      ({} : Classifier).foldRanges (document.insertIdx 2 line) =
        [⟨1, 2, some 0, "null_check", "guard"⟩] := by
  intro document line
  have hposition : 2 ≤ document.length := by decide
  have hcode : Document.isSkippable Document.codeMarkers line = true := by decide
  obtain ⟨hblocks, hkept⟩ :=
    skippable_insertion_moves_only_numbers document 2 line hposition hcode
  obtain ⟨hverdicts, hranges⟩ := hkept {} hcode
  obtain ⟨outcome, hbefore, hafter⟩ := hverdicts ⟨1, 1, 2⟩ (by decide) (by decide)
  have hguard : ({} : Classifier).explain ⟨1, 1, 2⟩ document =
      .ok (some ⟨"null_check", "guard", 0⟩) := by decide +kernel
  rw [hguard] at hbefore
  cases hbefore
  exact ⟨hposition, hcode, hblocks.trans (by decide), hafter,
    (hranges (by decide)).trans (by decide +kernel)⟩

-- Right before a block the new line hides the header, and another rule may accept the block.
example :
    let document : Document := ["if (p == NULL)".toList, "  return -1;".toList, "use(p);".toList]
    (({} : Classifier).foldRanges document).map (·.rule) = ["null_check"] ∧
      (({} : Classifier).foldRanges (document.insertIdx 1 "".toList)).map (·.rule) =
        ["return"] := by
  decide +kernel

end Classifier

end BranchFold
