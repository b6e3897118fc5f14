import BranchFold.FoldRange
import BranchFold.Proofs.Matching
import Mathlib

/-!
# Fold ranges never cross

An editor can only collapse runs of lines that lie apart or inside one another.  Matched pairs of a
word have that property, blocks are matched pairs, and judging only drops some of them.  The span
that is collapsed begins one line before the block, at its header, so this module also proves that
the shift by one line makes no two spans cross.

Main definitions:

- {lit}`FoldRange.Encloses`, {lit}`FoldRange.span`: how two ranges lie, and what is collapsed.
- {lit}`Classifier.rangeFor?`: the range of a block, if the block is accepted.

Main results:

- Theorem {lit}`Document.Matches.nested_or_after`: matched pairs do not cross.
- Theorem {lit}`Classifier.foldRanges_foldable`: the ranges of every document under every classifier
  can be folded.
-/

namespace BranchFold

/-! ## Matched pairs do not cross -/

namespace Document

variable {document : Document}

/-- Up to any line on the way from a rise to its fall there are no more falls than rises. -/
theorem Matches.count_le {first middle stop : Nat} (h : document.Matches first stop)
    (hfirst : first < middle) (hmiddle : middle ≤ stop) :
    (document.turnsBetween first middle).count .D ≤
      (document.turnsBetween first middle).count .U :=
  ((climbs_zero_iff _).2 h.balanced).count_le_of_start
    (turnsBetween_mono document hfirst hmiddle)

/-- Of two matched pairs, the one that ends later encloses the other or begins after its end. -/
theorem Matches.nested_or_after {first stop first' stop' : Nat}
    (h : document.Matches first stop) (h' : document.Matches first' stop') (hstop : stop < stop') :
    first' < first ∨ stop < first' := by
  by_contra hcross
  simp only [not_or, Nat.not_lt] at hcross
  rcases hcross with ⟨hfirst, hle⟩
  have hne : first' ≠ stop := by
    intro heq
    subst heq
    have hup := h'.up
    simp [h.down] at hup
  have hlt : first' < stop := by omega
  -- With the fall that ends the earlier pair, the word of the later one has a fall too many.
  have hpast := h'.count_le (Nat.lt_succ_of_lt hlt) hstop
  rw [turnsBetween_succ document hlt, h.down] at hpast
  have hbalanced := h.balanced.1
  rcases Nat.eq_or_lt_of_le hfirst with rfl | hinside
  · simp at hpast
    omega
  · have hbefore := h.count_le hinside hle
    rw [turnsBetween_split document hinside hlt, h'.up] at hbalanced
    simp at hpast hbalanced
    omega

/-- A block lies inside the document, before the line that closes it. -/
theorem bounds_of_mem_blocks {block : Block} (h : block ∈ document.blocks) :
    0 ≤ block.first ∧ block.first ≤ block.last ∧ block.last + 1 < document.length := by
  rcases mem_blocks_iff.1 h with ⟨first, last, hmatches, rfl⟩
  have hfirst := hmatches.lt
  have hlast := lt_length_of_turn? hmatches.down
  refine ⟨?_, ?_, ?_⟩
  · simp
  · dsimp only
    omega
  · dsimp only
    omega

/-- Of two blocks, the one that closes later encloses the other or lies after it with a gap. -/
theorem blocks_pairwise_nested_or_after (document : Document) :
    document.blocks.Pairwise fun earlier later =>
      later.first < earlier.first ∨ earlier.last + 1 < later.first := by
  rw [blocks_eq_filterMap]
  refine List.Pairwise.filterMap _ ?_ List.pairwise_lt_range
  intro number number' hlt earlier hearlier later hlater
  rcases closedAt?_eq_some_iff.1 hearlier with ⟨first, hmatches, rfl⟩
  rcases closedAt?_eq_some_iff.1 hlater with ⟨first', hmatches', rfl⟩
  rcases hmatches.nested_or_after hmatches' hlt with hnested | hafter
  · left
    simpa using hnested
  · right
    simpa using hafter

end Document

/-! ## Ranges of accepted blocks -/

namespace Classifier

/-- The range of a block, if the block is accepted. -/
def rangeFor? (classifier : Classifier) (document : Document) (block : Block) :
    Option FoldRange :=
  (classifier.verdict? document block).map (rangeOf block)

/-- The ranges of a document are those of its blocks, in the order of the blocks. -/
theorem foldRanges_eq_filterMap (classifier : Classifier) (document : Document) :
    classifier.foldRanges document = document.blocks.filterMap (classifier.rangeFor? document) := by
  rw [foldRanges, acceptedBlocks, List.map_filterMap]
  congr 1
  funext block
  cases hverdict : classifier.verdict? document block <;> simp [rangeFor?, hverdict]

/-- Every range is that of an accepted block. -/
theorem exists_block_of_mem_foldRanges {classifier : Classifier} {document : Document}
    {range : FoldRange} (h : range ∈ classifier.foldRanges document) :
    ∃ block ∈ document.blocks, ∃ verdict, range = rangeOf block verdict := by
  rw [foldRanges_eq_filterMap, List.mem_filterMap] at h
  rcases h with ⟨block, hblock, hrange⟩
  rcases Option.map_eq_some_iff.1 hrange with ⟨verdict, -, rfl⟩
  exact ⟨block, hblock, verdict, rfl⟩

end Classifier

/-! ## Foldable families -/

namespace FoldRange

/-- The outer range begins before the inner one and ends after it. -/
def Encloses (outer inner : FoldRange) : Prop :=
  outer.first < inner.first ∧ inner.last < outer.last

/-- The lines that an editor collapses. -/
def span (range : FoldRange) : Set Int :=
  Set.Icc range.foldStart range.last

/-- A range inside a document whose folding starts one line before it, except at the start of the
document. -/
structure IsPlaced (range : FoldRange) (document : Document) : Prop where
  first_nonneg : 0 ≤ range.first
  first_le_last : range.first ≤ range.last
  last_lt : range.last + 1 < document.length
  foldStart_eq : range.foldStart = if 0 < range.first then range.first - 1 else range.first

variable {document : Document} {p q : FoldRange}

/-- Spans of ranges that lie inside one another or apart with a gap do so, too. -/
theorem IsPlaced.span_subset_or_disjoint (hp : p.IsPlaced document) (hq : q.IsPlaced document)
    (h : q.Encloses p ∨ p.last + 1 < q.first) : p.span ⊆ q.span ∨ Disjoint p.span q.span := by
  have hpstart := hp.foldStart_eq
  have hqstart := hq.foldStart_eq
  have hqfirst := hq.first_nonneg
  rcases h with ⟨hfirst, hlast⟩ | hgap
  · left
    apply Set.Icc_subset_Icc
    · split_ifs at hpstart hqstart <;> omega
    · omega
  · right
    have hstart : p.last < q.foldStart := by
      have hpfirst := hp.first_nonneg
      have hple := hp.first_le_last
      split_ifs at hqstart <;> omega
    exact Set.disjoint_left.2 fun line hline hline' =>
      absurd (hline'.1.trans hline.2) (not_le.2 hstart)

/-- Only ranges that begin on the first two lines of the document fold from the same line. -/
theorem IsPlaced.first_of_foldStart_eq (hp : p.IsPlaced document) (hq : q.IsPlaced document)
    (h : q.Encloses p ∨ p.last + 1 < q.first) (hstart : p.foldStart = q.foldStart) :
    q.first = 0 ∧ p.first = 1 := by
  have hpfirst := hp.first_nonneg
  have hqfirst := hq.first_nonneg
  have hple := hp.first_le_last
  rw [hp.foldStart_eq, hq.foldStart_eq] at hstart
  rcases h with ⟨hfirst, -⟩ | hgap
  · split_ifs at hstart <;> omega
  · split_ifs at hstart <;> omega

end FoldRange

namespace Classifier

variable {classifier : Classifier} {document : Document}

/-- Every range of a document is placed in it. -/
theorem isPlaced_of_mem_foldRanges {range : FoldRange}
    (h : range ∈ classifier.foldRanges document) : range.IsPlaced document := by
  rcases exists_block_of_mem_foldRanges h with ⟨block, hblock, verdict, rfl⟩
  rcases Document.bounds_of_mem_blocks hblock with ⟨hnonneg, hle, hlt⟩
  refine ⟨hnonneg, hle, hlt, ?_⟩
  by_cases hpos : 0 < block.first <;> simp [rangeOf, FoldRange.foldStart, hpos]

/-- Ranges keep every relation between the lines of blocks in order. -/
theorem foldRanges_pairwise (classifier : Classifier) (Related : Int → Int → Int → Int → Prop)
    (h : document.blocks.Pairwise fun earlier later =>
      Related earlier.first earlier.last later.first later.last) :
    (classifier.foldRanges document).Pairwise fun p q =>
      Related p.first p.last q.first q.last := by
  rw [foldRanges_eq_filterMap]
  refine List.Pairwise.filterMap _ ?_ h
  intro earlier later hrelated p hp q hq
  rcases Option.map_eq_some_iff.1 hp with ⟨_, -, rfl⟩
  rcases Option.map_eq_some_iff.1 hq with ⟨_, -, rfl⟩
  exact hrelated

/-- Ranges come by strictly increasing end. -/
theorem foldRanges_pairwise_last_lt (classifier : Classifier) (document : Document) :
    (classifier.foldRanges document).Pairwise fun p q => p.last < q.last :=
  foldRanges_pairwise classifier (fun _ last _ last' => last < last')
    (Document.blocks_pairwise_last_lt document)

/-- Of two ranges the later one encloses the earlier one or lies after it with a gap. -/
theorem foldRanges_pairwise_encloses_or_after (classifier : Classifier) (document : Document) :
    (classifier.foldRanges document).Pairwise fun p q =>
      q.Encloses p ∨ p.last + 1 < q.first := by
  have hfirst := foldRanges_pairwise classifier
    (fun first last first' _ => first' < first ∨ last + 1 < first')
    (Document.blocks_pairwise_nested_or_after document)
  refine ((foldRanges_pairwise_last_lt classifier document).and hfirst).imp ?_
  intro p q hboth
  rcases hboth with ⟨hlast, hnested | hafter⟩
  · exact Or.inl ⟨hnested, hlast⟩
  · exact Or.inr hafter

/--
The ranges of a document can be folded.  Each lies inside the document and before its last line.
They come by strictly increasing end, and of any two the later one encloses the earlier one or lies
after it with a gap.  So the spans that are collapsed lie apart or inside one another, and two of
them begin on the same line only if their blocks begin on the first two lines of the document.
-/
theorem foldRanges_foldable (classifier : Classifier) (document : Document) :
    (∀ range ∈ classifier.foldRanges document,
      0 ≤ range.first ∧ range.first ≤ range.last ∧ range.last + 1 < document.length) ∧
    ((classifier.foldRanges document).Pairwise fun p q => p.last < q.last) ∧
    ((classifier.foldRanges document).Pairwise fun p q =>
      q.Encloses p ∨ p.last + 1 < q.first) ∧
    ((classifier.foldRanges document).Pairwise fun p q =>
      Disjoint p.span q.span ∨ p.span ⊆ q.span ∨ q.span ⊆ p.span) ∧
    ((classifier.foldRanges document).Pairwise fun p q =>
      p.foldStart = q.foldStart → q.first = 0 ∧ p.first = 1) := by
  have hfamily := foldRanges_pairwise_encloses_or_after classifier document
  refine ⟨?_, foldRanges_pairwise_last_lt classifier document, hfamily, ?_, ?_⟩
  · intro range hrange
    have hplaced := isPlaced_of_mem_foldRanges hrange
    exact ⟨hplaced.first_nonneg, hplaced.first_le_last, hplaced.last_lt⟩
  · refine hfamily.imp_of_mem ?_
    intro p q hp hq h
    rcases (isPlaced_of_mem_foldRanges hp).span_subset_or_disjoint
      (isPlaced_of_mem_foldRanges hq) h with hsubset | hdisjoint
    · exact Or.inr (Or.inl hsubset)
    · exact Or.inl hdisjoint
  · refine hfamily.imp_of_mem ?_
    intro p q hp hq h hstart
    exact (isPlaced_of_mem_foldRanges hp).first_of_foldStart_eq (isPlaced_of_mem_foldRanges hq) h
      hstart

-- Two spans do begin on the same line when the document begins with an indented line.
example :
    let classifier : Classifier :=
      { rules := ⟨[.custom "any" "any" "any" .content fun _ => true]⟩ }
    (classifier.foldRanges
      ["  a".toList, "    b".toList, "  c".toList, "d".toList]).map (·.foldStart) = [0, 0] := by
  decide

end Classifier
end BranchFold
