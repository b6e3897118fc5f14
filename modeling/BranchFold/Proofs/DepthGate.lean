import BranchFold.Proofs.AnyBlock
import BranchFold.Proofs.Levels

/-!
# The depth gate is a filter

The gate is asked before the guards and before the content, and it looks at the same header as the
guards do.  This module proves that it never has a say in the reason for which a block is accepted:
the ranges behind the gate are those found without it whose blocks are deep enough or labelled.  A
higher threshold therefore only removes ranges, and since every block is indented, a threshold of
zero or less removes none.

Main definitions:

- {lit}`RuleSet.Spares`: the block lies deeper than the threshold, or its header carries a label.
- {lit}`FoldRange.IsOf`: the range covers the lines of the block.

Main results:

- Theorem {lit}`Classifier.explain_gated`: the verdict on any block behind the gate.
- Theorem {lit}`Classifier.depth_gate_filters_ranges`: the ranges of a document behind the gate.
-/

namespace BranchFold

/-! ## Blocks that the gate spares -/

/-- The block lies deeper than the threshold, or some rule of the gate answers yes for its header. -/
def RuleSet.Spares (rules : RuleSet) (threshold : Int) (document : Document) (block : Block) :
    Prop :=
  threshold < block.indent ∨ ∃ line, document.IsHeader block line ∧ rules.Answers .gate line

/-- The range covers the lines of the block. -/
def FoldRange.IsOf (range : FoldRange) (block : Block) : Prop :=
  range.first = block.first ∧ range.last = block.last

instance (range : FoldRange) (block : Block) : Decidable (range.IsOf block) :=
  inferInstanceAs (Decidable (_ ∧ _))

variable {rules : RuleSet} {document : Document} {block : Block} {markers : List Text}
  {threshold threshold' : Int}

/-- A gate that is on is open exactly for the blocks that it spares. -/
theorem Classifier.gateOpen_iff_spares :
    GateOpen ⟨rules, true, threshold, markers⟩ document block ↔
      rules.Spares threshold document block := by
  simp [GateOpen, RuleSet.Spares]

/-- Whether a block is spared is decided as the gate decides it. -/
instance (rules : RuleSet) (threshold : Int) (document : Document) (block : Block) :
    Decidable (rules.Spares threshold document block) :=
  decidable_of_iff
    (Classifier.passesGate ⟨rules, true, threshold, []⟩ block
      (Classifier.precedingLine block document) = true)
    (Classifier.passesGate_iff.trans Classifier.gateOpen_iff_spares)

/-- A lower threshold spares more blocks. -/
theorem RuleSet.Spares.of_le (h : rules.Spares threshold' document block)
    (hle : threshold ≤ threshold') : rules.Spares threshold document block := by
  rcases h with hdeep | hlabel
  · exact Or.inl (hle.trans_lt hdeep)
  · exact Or.inr hlabel

namespace Document

/-- Every block is indented, since the line that closes it is indented less. -/
theorem one_le_indent_of_mem_blocks (h : block ∈ document.blocks) : 1 ≤ block.indent := by
  rcases mem_blocks_iff.1 h with ⟨first, last, hmatches, rfl⟩
  have hfall := turn?_eq_down_iff.1 hmatches.down
  dsimp only
  omega

/-- A block is determined by its last line. -/
theorem eq_of_last_eq {block' : Block} (h : block ∈ document.blocks)
    (h' : block' ∈ document.blocks) (hlast : block.last = block'.last) : block = block' := by
  have hnodup : (document.blocks.map Block.last).Nodup :=
    List.pairwise_map.2 ((blocks_pairwise_last_lt document).imp fun hlt => hlt.ne)
  exact List.inj_on_of_nodup_map hnodup h h' hlast

end Document

namespace Classifier

/-! ## The verdict behind the gate -/

/-- The gate rejects a block that it does not spare, and has no say in the verdict on any other. -/
theorem explain_gated (rules : RuleSet) (threshold unused : Int) (markers : List Text)
    (block : Block) (document : Document) :
    explain ⟨rules, true, threshold, markers⟩ block document =
      if rules.Spares threshold document block then
        explain ⟨rules, false, unused, markers⟩ block document
      else .ok none := by
  split_ifs with hspares
  · have hopen : passesGate ⟨rules, true, threshold, markers⟩ block
        (precedingLine block document) = true :=
      passesGate_iff.2 (gateOpen_iff_spares.2 hspares)
    exact explain_eq rfl (fun _ _ => rfl) hopen
  · have hclosed : ¬ passesGate ⟨rules, true, threshold, markers⟩ block
        (precedingLine block document) = true := fun hopen =>
      hspares (gateOpen_iff_spares.1 (passesGate_iff.1 hopen))
    rw [explain]
    exact if_neg hclosed

theorem rangeFor?_gated (rules : RuleSet) (threshold unused : Int) (markers : List Text)
    (document : Document) (block : Block) :
    rangeFor? ⟨rules, true, threshold, markers⟩ document block =
      if rules.Spares threshold document block then
        rangeFor? ⟨rules, false, unused, markers⟩ document block
      else none := by
  rw [rangeFor?, verdict?, explain_gated rules threshold unused]
  split_ifs <;> rfl

/-! ## The ranges behind the gate -/

/-- The ranges of a document are kept or dropped by a property of their blocks. -/
theorem foldRanges_filter (classifier : Classifier) (document : Document) (Kept : Block → Prop)
    [DecidablePred Kept] :
    ((classifier.foldRanges document).filter fun range =>
        ∃ block ∈ document.blocks, range.IsOf block ∧ Kept block) =
      document.blocks.filterMap fun block =>
        if Kept block then classifier.rangeFor? document block else none := by
  rw [foldRanges_eq_filterMap, List.filter_filterMap]
  refine List.filterMap_congr ?_
  intro block hblock
  cases hverdict : classifier.verdict? document block with
  | none => simp [rangeFor?, hverdict]
  | some verdict =>
    -- The block itself is the only one that the range can be of.
    have hiff : (∃ block' ∈ document.blocks, (rangeOf block verdict).IsOf block' ∧ Kept block') ↔
        Kept block := by
      constructor
      · intro hgiven
        rcases hgiven with ⟨block', hblock', hof, hkept⟩
        rwa [Document.eq_of_last_eq hblock hblock' hof.2]
      · intro hkept
        exact ⟨block, hblock, ⟨rfl, rfl⟩, hkept⟩
    simp only [rangeFor?, hverdict, Option.map_some, Option.filter_some, hiff, decide_eq_true_eq]

/-- The ranges behind the gate are those found without it whose blocks the gate spares. -/
theorem foldRanges_gated (rules : RuleSet) (threshold unused : Int) (markers : List Text)
    (document : Document) :
    foldRanges ⟨rules, true, threshold, markers⟩ document =
      (foldRanges ⟨rules, false, unused, markers⟩ document).filter fun range =>
        ∃ block ∈ document.blocks, range.IsOf block ∧ rules.Spares threshold document block := by
  rw [foldRanges_filter, foldRanges_eq_filterMap]
  refine List.filterMap_congr ?_
  intro block _
  exact rangeFor?_gated rules threshold unused markers document block

/-- Every range is of exactly one block of the document. -/
theorem existsUnique_isOf {classifier : Classifier} {range : FoldRange}
    (h : range ∈ classifier.foldRanges document) :
    ∃! block, block ∈ document.blocks ∧ range.IsOf block := by
  rcases exists_block_of_mem_foldRanges h with ⟨block, hblock, verdict, rfl⟩
  refine ⟨block, ⟨hblock, rfl, rfl⟩, ?_⟩
  intro block' hblock'
  exact Document.eq_of_last_eq hblock'.1 hblock hblock'.2.2.symm

/--
The depth gate is exactly a filter.  Behind a gate with a threshold, the ranges are those found
with the gate off, in the same order and with the same fields, whose block lies deeper than the
threshold or has a header for which some rule of the gate answers yes; each range is of exactly one
block.  A higher threshold only removes ranges.  Every block is indented by at least one, so a
threshold of zero or less gives the ranges that are found with the gate off.
-/
theorem depth_gate_filters_ranges (rules : RuleSet) (markers : List Text) (document : Document) :
    (∀ threshold unused : Int,
      foldRanges ⟨rules, true, threshold, markers⟩ document =
        (foldRanges ⟨rules, false, unused, markers⟩ document).filter fun range =>
          ∃ block ∈ document.blocks,
            range.IsOf block ∧ rules.Spares threshold document block) ∧
    (∀ unused : Int, ∀ range ∈ foldRanges ⟨rules, false, unused, markers⟩ document,
      ∃! block, block ∈ document.blocks ∧ range.IsOf block) ∧
    (∀ threshold threshold' : Int, threshold ≤ threshold' →
      (foldRanges ⟨rules, true, threshold', markers⟩ document).Sublist
        (foldRanges ⟨rules, true, threshold, markers⟩ document)) ∧
    (∀ block ∈ document.blocks, 1 ≤ block.indent) ∧
    ∀ threshold unused : Int, threshold ≤ 0 →
      foldRanges ⟨rules, true, threshold, markers⟩ document =
        foldRanges ⟨rules, false, unused, markers⟩ document := by
  refine ⟨fun threshold unused => foldRanges_gated rules threshold unused markers document,
    fun _ _ hrange => existsUnique_isOf hrange, ?_,
    fun _ hblock => Document.one_le_indent_of_mem_blocks hblock, ?_⟩
  · intro threshold threshold' hle
    rw [foldRanges_gated rules threshold 0, foldRanges_gated rules threshold' 0]
    refine List.monotone_filter_right _ ?_
    intro range hkept
    rw [decide_eq_true_eq] at hkept ⊢
    rcases hkept with ⟨block, hblock, hof, hspares⟩
    exact ⟨block, hblock, hof, hspares.of_le hle⟩
  · intro threshold unused hle
    rw [foldRanges_gated rules threshold unused, List.filter_eq_self]
    intro range hrange
    rcases (existsUnique_isOf hrange).exists with ⟨block, hblock, hof⟩
    have hindent := Document.one_le_indent_of_mem_blocks hblock
    rw [decide_eq_true_eq]
    exact ⟨block, hblock, hof, Or.inl (by omega)⟩

/-- Of a guarded block and a labelled one, a threshold at the level of the deeper block keeps the
labelled one only; one level less keeps both, and so does a threshold of zero. -/
theorem depth_gate_keeps_labelled_block :
    let document : Document :=
      ["void f()".toList, "  if (p == NULL)".toList, "    return -1;".toList,
        "  use(p);".toList, "fail:".toList, "  return -2;".toList, "use(p);".toList]
    let behind (threshold : Int) : List FoldRange :=
      foldRanges ⟨Builtin.ruleSet, true, threshold, Document.codeMarkers⟩ document
    behind 4 = [⟨5, 5, some 4, "return", "keyword"⟩] ∧
      (3 : Int) ≤ 4 ∧ (behind 4).Sublist (behind 3) ∧
      (0 : Int) ≤ 0 ∧ behind 0 =
        [⟨2, 2, some 1, "null_check", "guard"⟩, ⟨5, 5, some 4, "return", "keyword"⟩] := by
  intro document behind
  obtain ⟨hfilter, -, hsublist, -, hzero⟩ :=
    depth_gate_filters_ranges Builtin.ruleSet Document.codeMarkers document
  refine ⟨(hfilter 4 0).trans ?_, by decide, hsublist 3 4 (by decide), by decide,
    (hzero 0 0 (by decide)).trans ?_⟩
  · decide +kernel
  · decide +kernel

end Classifier
end BranchFold
