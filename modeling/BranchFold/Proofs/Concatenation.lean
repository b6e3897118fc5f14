import BranchFold.Proofs.Evidence

/-!
# Documents one behind the other

A document is closed when its last line with code stands at the margin and no block is left open.
Reading it leaves no trace in the nesting, so the lines behind it are read as if they stood alone,
under numbers that are moved on by its length.  The judgement of a block looks at one line outside
it, the line before its first.  Blocks that do not begin the second document have that line in the
same document, and keep their verdict.  An edit inside a closed part of a file therefore moves the
ranges of the other parts and changes nothing else about them.

Main definitions:

- {lit}`Document.IsClosed`: a document that leaves no trace in the nesting.
- {lit}`Block.behind`, {lit}`Verdict.behind`, {lit}`FoldRange.behind`: all numbers moved on by the
  length of what stands in front.

Main results:

- Theorem {lit}`Nesting.run_behind`: lines close the same blocks wherever they stand.
- Theorem {lit}`Document.IsClosed.blocks_append`: the blocks of two documents.
- Theorem {lit}`Classifier.ranges_of_concatenation`: blocks and ranges of two documents, of which
  the first is closed.
-/

namespace BranchFold

/-! ## Numbers behind other lines -/

/-- The block behind so many other lines. -/
def Block.behind (offset : Nat) (block : Block) : Block :=
  { block with first := block.first + offset, last := block.last + offset }

/-- The verdict behind so many other lines. -/
def Verdict.behind (offset : Nat) (verdict : Verdict) : Verdict :=
  { verdict with line := verdict.line + offset }

/-- The range behind so many other lines. -/
def FoldRange.behind (offset : Nat) (range : FoldRange) : FoldRange :=
  { range with
    first := range.first + offset
    last := range.last + offset
    header := range.header.map (· + (offset : Int)) }

/-! ## The nesting -/

namespace Nesting

variable {state : Nesting} {offset number : Nat}

/-- The state behind so many other lines. -/
def behind (offset : Nat) (state : Nesting) : Nesting :=
  { state with opened := state.opened.map (· + offset) }

@[simp]
theorem behind_root (offset : Nat) : root.behind offset = root := rfl

/-- A line does behind other lines what it does without them. -/
theorem step_behind (state : Nesting) (offset number : Nat) (line : Line) :
    (state.behind offset).step (number + offset) line =
      ((state.step number line).1.behind offset,
        (state.step number line).2.map (Block.behind offset)) := by
  rcases state with ⟨level, opened⟩
  unfold step
  split_ifs
  · rfl
  · unfold enter
    dsimp only [behind]
    by_cases hup : level < Text.indent line
    · simp [hup]
    · by_cases hdown : Text.indent line < level
      · cases opened with
        | nil => simp [hup, hdown]
        | cons first outer =>
          have hlast : ((number + offset : Nat) : Int) - 1 = (number : Int) - 1 + offset := by
            omega
          simp [hup, hdown, Block.behind, ← hlast]
      · simp [hup, hdown]

/-- Lines close behind other lines the blocks that they close without them. -/
theorem run_behind (state : Nesting) (offset number : Nat) (lines : Document) :
    ((state.behind offset).run (number + offset) lines).1 =
      (state.run number lines).1.map (Block.behind offset) := by
  induction lines generalizing state number with
  | nil => rfl
  | cons line rest ih =>
    have hnext : number + offset + 1 = number + 1 + offset := by omega
    have hrest := ih (state.step number line).1 (number + 1)
    simp only [run, step_behind, hnext, hrest, List.map_append]
    cases (state.step number line).2 <;> rfl

end Nesting

/-! ## Closed documents -/

namespace Document

/-- The last line with code, if there is one, stands at the margin, and every rise of the
indentation begins a block of the document. -/
structure IsClosed (document : Document) : Prop where
  level_eq : document.level = 0
  blocks_eq : document.blocks.length = document.upCount

variable {document : Document}

/-- After a closed document the nesting is what it was before. -/
theorem IsClosed.run_eq_root (h : document.IsClosed) :
    (Nesting.root.run 0 document).2 = Nesting.root := by
  have hstate := nestingBefore_eq document document.length
  have hlevel : document.levelBefore document.length = 0 := by
    rw [levelBefore, List.take_length, h.level_eq]
  have hopened : document.openedBefore document.length = [] := by
    have hcount := stillOpen_add_length_blocks document
    have hnone : document.stillOpen = 0 := by
      rw [h.blocks_eq] at hcount
      omega
    rw [stillOpen_eq] at hnone
    exact List.eq_nil_of_length_eq_zero hnone
  rw [nestingBefore, List.take_length, hlevel, hopened] at hstate
  exact hstate

/-- Behind a closed document the blocks are those of the second document, moved on. -/
theorem IsClosed.blocks_append (h : document.IsClosed) (more : Document) :
    (document ++ more).blocks =
      document.blocks ++ more.blocks.map (Block.behind document.length) := by
  have hmore := Nesting.run_behind Nesting.root document.length 0 more
  rw [blocks, Nesting.run_append, h.run_eq_root]
  exact congrArg (document.blocks ++ ·) hmore

end Document

/-! ## The evidence -/

variable {document more : Document} {block : Block}

theorem Block.IsWithin.behind (h : block.IsWithin more) (document : Document) :
    (block.behind document.length).IsWithin (document ++ more) := by
  have hfirst := h.first_nonneg
  have hle := h.first_le_last
  have hlast := h.last_lt
  refine ⟨?_, ?_, ?_⟩
  · dsimp only [Block.behind]
    omega
  · dsimp only [Block.behind]
    omega
  · rw [List.length_append]
    dsimp only [Block.behind]
    omega

/-- The lines of a block behind other lines are its own lines, moved on. -/
theorem Block.numbers_behind (hfirst : 0 ≤ block.first) (offset : Nat) :
    (block.behind offset).numbers = block.numbers.map (offset + ·) := by
  have hstart : (block.first + offset).toNat = offset + block.first.toNat := by omega
  have hcount : block.last + offset + 1 - (block.first + offset) =
      block.last + 1 - block.first := by omega
  rw [numbers, numbers, List.map_add_range']
  dsimp only [Block.behind]
  rw [hstart, hcount]

namespace Classifier

variable {classifier : Classifier}

/-- A block that does not begin the second document has its header there. -/
theorem precedingLine_behind (h : block.IsWithin more) (hfirst : block.first ≠ 0)
    (document : Document) :
    precedingLine (block.behind document.length) (document ++ more) =
      precedingLine block more := by
  have hnonneg := h.first_nonneg
  have hle := h.first_le_last
  have hlast := h.last_lt
  have hinside : 0 < (block.behind document.length).first ∧
      (block.behind document.length).first ≤ (document ++ more).length := by
    rw [List.length_append]
    dsimp only [Block.behind]
    omega
  have hheader : ((block.behind document.length).first - 1).toNat =
      document.length + (block.first - 1).toNat := by
    dsimp only [Block.behind]
    omega
  rw [precedingLine, if_pos hinside, precedingLine, if_pos (by omega), hheader,
    List.getElem?_append_right (Nat.le_add_right _ _), Nat.add_sub_cancel_left]

/-- The rules say on a line of the second document what they say without the first. -/
theorem contentVerdictAt?_behind (classifier : Classifier) (indent : Int)
    (document more : Document) (number : Nat) :
    classifier.contentVerdictAt? indent (document ++ more) (document.length + number) =
      (classifier.contentVerdictAt? indent more number).map (Verdict.behind document.length) := by
  rw [contentVerdictAt?, contentVerdictAt?, contentRuleAt?, contentRuleAt?,
    List.getElem?_append_right (Nat.le_add_right _ _), Nat.add_sub_cancel_left, Option.map_map]
  congr 1
  funext rule
  simp [Verdict.behind, Int.add_comm]

/-- The rules say on the lines of a block what they say without the first document. -/
theorem contentVerdicts_behind (classifier : Classifier) (hfirst : 0 ≤ block.first) (indent : Int)
    (document more : Document) :
    classifier.contentVerdicts indent (document ++ more)
        (block.behind document.length).numbers =
      (classifier.contentVerdicts indent more block.numbers).map
        (Verdict.behind document.length) := by
  rw [contentVerdicts, Block.numbers_behind hfirst, List.filterMap_map, contentVerdicts,
    List.map_filterMap]
  refine List.filterMap_congr ?_
  intro number _
  exact contentVerdictAt?_behind classifier indent document more number

/-- The judgement reports line numbers behind other lines. -/
theorem judge_behind (classifier : Classifier) (block : Block) (offset : Nat)
    (header : Option Line) (content : List Verdict) :
    classifier.judge (block.behind offset) header (content.map (Verdict.behind offset)) =
      (classifier.judge block header content).map (Verdict.behind offset) := by
  have hgate : classifier.passesGate (block.behind offset) header =
      classifier.passesGate block header := rfl
  have hline : (block.behind offset).first - 1 = block.first - 1 + offset := by
    dsimp only [Block.behind]
    omega
  unfold judge
  rw [hgate, hline]
  split_ifs
  · cases header.bind (classifier.rules.firstMatch · .preceding) with
    | some rule => rfl
    | none => rw [List.head?_map]
  · rfl

/-- The range of a block behind other lines. -/
theorem rangeOf_behind (hfirst : 0 < block.first) (offset : Nat) (verdict : Verdict) :
    rangeOf (block.behind offset) (verdict.behind offset) =
      (rangeOf block verdict).behind offset := by
  have hbehind : 0 < block.first + offset := by omega
  have hheader : block.first + offset - 1 = block.first - 1 + offset := by omega
  simp [rangeOf, Block.behind, Verdict.behind, FoldRange.behind, hfirst, hbehind, hheader]

/-- A block that does not begin the second document keeps its range. -/
theorem rangeFor?_behind (classifier : Classifier) (h : block.IsWithin more)
    (hfirst : block.first ≠ 0) (document : Document) :
    classifier.rangeFor? (document ++ more) (block.behind document.length) =
      (classifier.rangeFor? more block).map (FoldRange.behind document.length) := by
  have hpos : 0 < block.first := by
    have hnonneg := h.first_nonneg
    omega
  have hindent : (block.behind document.length).indent = block.indent := rfl
  rw [rangeFor?, rangeFor?, verdict?_eq_judge classifier (h.behind document),
    verdict?_eq_judge classifier h, precedingLine_behind h hfirst, hindent,
    contentVerdicts_behind classifier h.first_nonneg, judge_behind, Option.map_map, Option.map_map]
  congr 1
  funext verdict
  exact rangeOf_behind hpos document.length verdict

/-! ## Two documents -/

/--
A closed document and the lines behind it do not touch each other.  The blocks of both together are
the blocks of the first and then those of the second, moved on by the length of the first.  If no
block begins on the first line of the second document, whose header would be the last line of the
first, then the ranges under every classifier are put together in the same way.
-/
theorem ranges_of_concatenation (document more : Document) (hclosed : document.IsClosed) :
    (document ++ more).blocks =
        document.blocks ++ more.blocks.map (Block.behind document.length) ∧
      ((∀ block ∈ more.blocks, block.first ≠ 0) → ∀ classifier : Classifier,
        classifier.foldRanges (document ++ more) =
          classifier.foldRanges document ++
            (classifier.foldRanges more).map (FoldRange.behind document.length)) := by
  have hblocks := hclosed.blocks_append more
  refine ⟨hblocks, ?_⟩
  intro hfree classifier
  have hfront : document.blocks.filterMap (classifier.rangeFor? (document ++ more)) =
      document.blocks.filterMap (classifier.rangeFor? document) :=
    List.filterMap_congr fun block hblock =>
      rangeFor?_append classifier (Document.isWithin_of_mem_blocks hblock) more
  have hback : (more.blocks.map (Block.behind document.length)).filterMap
      (classifier.rangeFor? (document ++ more)) =
        (more.blocks.filterMap (classifier.rangeFor? more)).map
          (FoldRange.behind document.length) := by
    rw [List.filterMap_map, List.map_filterMap]
    refine List.filterMap_congr ?_
    intro block hblock
    exact rangeFor?_behind classifier (Document.isWithin_of_mem_blocks hblock)
      (hfree block hblock) document
  rw [foldRanges_eq_filterMap, foldRanges_eq_filterMap, foldRanges_eq_filterMap, hblocks,
    List.filterMap_append, hfront, hback]

/-- A document that falls part of the way and then by two levels at once, with a comment behind its
last line of code, in front of a guarded block. -/
theorem ranges_behind_uneven_falls :
    let document : Document :=
      ["if (a == NULL) \x7b".toList, "  if (b)".toList, "      return -1;".toList,
        "    f();".toList, "\x7d".toList, "  // done".toList]
    let more : Document := ["if (p == NULL)".toList, "  return -1;".toList, "use(p);".toList]
    document.IsClosed ∧ (∀ block ∈ more.blocks, block.first ≠ 0) ∧
      (document ++ more).blocks = [⟨2, 2, 6⟩, ⟨1, 3, 4⟩, ⟨7, 7, 2⟩] ∧
      ({} : Classifier).foldRanges (document ++ more) =
        [⟨2, 2, some 1, "return", "keyword"⟩, ⟨1, 3, some 0, "null_check", "guard"⟩,
          ⟨7, 7, some 6, "null_check", "guard"⟩] := by
  intro document more
  have hclosed : document.IsClosed := ⟨by decide, by decide⟩
  have hfree : ∀ block ∈ more.blocks, block.first ≠ 0 := by decide
  obtain ⟨hblocks, hranges⟩ := ranges_of_concatenation document more hclosed
  exact ⟨hclosed, hfree, hblocks.trans (by decide), (hranges hfree {}).trans (by decide +kernel)⟩

-- A rise that no fall has matched stays open, and a fall in the second document finds it.
example :
    let document : Document := ["a".toList, "  b".toList, "    c".toList, "d".toList]
    let more : Document := ["e".toList, "    f".toList, "  g".toList, "h".toList]
    document.level = 0 ∧ document.blocks.length < document.upCount ∧
      document.blocks = [⟨2, 2, 4⟩] ∧ more.blocks = [⟨1, 1, 4⟩] ∧
      (document ++ more).blocks = [⟨2, 2, 4⟩, ⟨5, 5, 4⟩, ⟨1, 6, 2⟩] := by
  decide

end Classifier
end BranchFold
