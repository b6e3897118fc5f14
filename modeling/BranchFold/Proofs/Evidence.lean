import BranchFold.Proofs.Reasons

/-!
# What a judgement looks at

The verdict on a block is determined by the block, the line before it and the lines of the block
itself.  This module puts the judgement into that form, in which two judgements can be compared
piece by piece, and draws the first consequence: lines behind a block do not matter.  A document
that grows at its end therefore keeps all its ranges.

Main definitions:

- {lit}`Block.IsWithin`, {lit}`Block.numbers`: a block inside a document, and its line numbers.
- {lit}`Classifier.contentVerdicts`: what the rules about content say on given lines.
- {lit}`Classifier.judge`: the verdict from the evidence.

Main results:

- Theorem {lit}`Classifier.explain_eq_judge`: the judgement of a block from its evidence.
- Theorem {lit}`Classifier.foldRanges_stable_under_append`: lines that are appended to a document
  only ever add ranges behind those already found.
-/

namespace BranchFold

/-! ## Blocks inside a document -/

/-- The block begins and ends inside the document. -/
structure Block.IsWithin (block : Block) (document : Document) : Prop where
  first_nonneg : 0 ≤ block.first
  first_le_last : block.first ≤ block.last
  last_lt : block.last < document.length

/-- The numbers of the lines of a block. -/
def Block.numbers (block : Block) : List Nat :=
  List.range' block.first.toNat (block.last + 1 - block.first).toNat

/-- The blocks of a document come first among those of a longer one. -/
theorem Document.blocks_append (document more : Document) :
    ∃ later, (document ++ more).blocks = document.blocks ++ later := by
  rw [blocks, Nesting.run_append]
  exact ⟨_, rfl⟩

/-- The blocks of a document lie inside it. -/
theorem Document.isWithin_of_mem_blocks {document : Document} {block : Block}
    (h : block ∈ document.blocks) : block.IsWithin document := by
  rcases bounds_of_mem_blocks h with ⟨hnonneg, hle, hlt⟩
  exact ⟨hnonneg, hle, by omega⟩

namespace Block.IsWithin

variable {block : Block} {document : Document}

/-- The lines of a block inside a document are lines of the document. -/
theorem lt_length_of_mem_numbers (h : block.IsWithin document) {number : Nat}
    (hnumber : number ∈ block.numbers) : number < document.length := by
  have hlast := h.last_lt
  have hfirst := h.first_nonneg
  rw [numbers, List.mem_range'_1] at hnumber
  omega

/-- A block inside a document lies inside every longer one. -/
theorem append (h : block.IsWithin document) (more : Document) :
    block.IsWithin (document ++ more) := by
  have hlast := h.last_lt
  refine ⟨h.first_nonneg, h.first_le_last, ?_⟩
  rw [List.length_append]
  omega

end Block.IsWithin

/-! ## The judgement from its evidence -/

namespace Classifier

variable {classifier : Classifier} {document : Document} {block : Block}

/-- The verdict by content on the line of that number, if some rule accepts the line. -/
def contentVerdictAt? (classifier : Classifier) (indent : Int) (document : Document)
    (number : Nat) : Option Verdict :=
  (classifier.contentRuleAt? indent document number).map fun rule =>
    ⟨rule.name, rule.category, number⟩

/-- The verdicts by content on the lines of those numbers. -/
def contentVerdicts (classifier : Classifier) (indent : Int) (document : Document)
    (numbers : List Nat) : List Verdict :=
  numbers.filterMap (classifier.contentVerdictAt? indent document)

/-- The verdict on a block from the line before it and the verdicts by its content, of which the
first counts. -/
def judge (classifier : Classifier) (block : Block) (header : Option Line)
    (content : List Verdict) : Option Verdict :=
  if classifier.passesGate block header then
    match header.bind (classifier.rules.firstMatch · .preceding) with
    | some rule => some ⟨rule.name, rule.category, block.first - 1⟩
    | none => content.head?
  else none

/-- The scan inside a document is the search over the numbers of its lines. -/
theorem scanContent_eq (classifier : Classifier) (indent : Int) (document : Document)
    (number count : Nat) (h : number + count ≤ document.length) :
    classifier.scanContent indent document number count =
      .ok (classifier.contentVerdicts indent document (List.range' number count)).head? := by
  induction count generalizing number with
  | zero => rfl
  | succ count ih =>
    have hline : document[number]? = some document[number] := List.getElem?_eq_getElem (by omega)
    have hat : classifier.contentVerdictAt? indent document number =
        (classifier.contentRule indent document[number]).map fun rule =>
          ⟨rule.name, rule.category, number⟩ := by
      simp [contentVerdictAt?, contentRuleAt?, hline]
    have hnext := ih (number + 1) (by omega)
    push_cast at hnext
    rw [scanContent, Document.line?_natCast, hline, List.range'_succ, contentVerdicts]
    dsimp only
    cases hrule : classifier.contentRule indent document[number] with
    | some rule =>
      rw [List.filterMap_cons_some (by rw [hat, hrule]; rfl)]
      rfl
    | none =>
      rw [List.filterMap_cons_none (by rw [hat, hrule]; rfl)]
      exact hnext

/-- A block inside a document is judged by its evidence, and the judgement always ends well. -/
theorem explain_eq_judge (classifier : Classifier) (h : block.IsWithin document) :
    classifier.explain block document =
      .ok (classifier.judge block (precedingLine block document)
        (classifier.contentVerdicts block.indent document block.numbers)) := by
  have hfirst := h.first_nonneg
  have hle := h.first_le_last
  have hlast := h.last_lt
  have hstart : block.first = (block.first.toNat : Int) := by omega
  have hlength : contentLength block document = (block.last + 1 - block.first).toNat := by
    unfold contentLength
    omega
  have hscan : classifier.scanContent block.indent document block.first
      (contentLength block document) =
        .ok (classifier.contentVerdicts block.indent document block.numbers).head? := by
    rw [hlength, Block.numbers]
    nth_rewrite 1 [hstart]
    exact scanContent_eq classifier block.indent document _ _ (by omega)
  unfold explain judge
  dsimp only
  rw [hscan]
  split_ifs
  · cases (precedingLine block document).bind (classifier.rules.firstMatch · .preceding) <;> rfl
  · rfl

/-- The verdict on a block inside a document. -/
theorem verdict?_eq_judge (classifier : Classifier) (h : block.IsWithin document) :
    classifier.verdict? document block =
      classifier.judge block (precedingLine block document)
        (classifier.contentVerdicts block.indent document block.numbers) := by
  rw [verdict?, explain_eq_judge classifier h]
  rfl

/-! ## Documents that grow -/

/-- The line before a block does not change when lines are appended to the document. -/
theorem precedingLine_append (h : block.IsWithin document) (more : Document) :
    precedingLine block (document ++ more) = precedingLine block document := by
  have hle := h.first_le_last
  have hlast := h.last_lt
  unfold precedingLine
  by_cases hfirst : 0 < block.first
  · rw [if_pos ⟨hfirst, by rw [List.length_append]; omega⟩, if_pos ⟨hfirst, by omega⟩,
      List.getElem?_append_left (by omega)]
  · rw [if_neg (by omega), if_neg (by omega)]

/-- The content of a block does not change when lines are appended to the document. -/
theorem contentVerdicts_append (classifier : Classifier) (h : block.IsWithin document)
    (more : Document) :
    classifier.contentVerdicts block.indent (document ++ more) block.numbers =
      classifier.contentVerdicts block.indent document block.numbers := by
  refine List.filterMap_congr ?_
  intro number hnumber
  rw [contentVerdictAt?, contentVerdictAt?, contentRuleAt?, contentRuleAt?,
    List.getElem?_append_left (h.lt_length_of_mem_numbers hnumber)]

/-- A block keeps its range when lines are appended to the document. -/
theorem rangeFor?_append (classifier : Classifier) (h : block.IsWithin document)
    (more : Document) :
    classifier.rangeFor? (document ++ more) block = classifier.rangeFor? document block := by
  rw [rangeFor?, rangeFor?, verdict?_eq_judge classifier (h.append more),
    verdict?_eq_judge classifier h, precedingLine_append h, contentVerdicts_append classifier h]

/--
Appending lines to a document never removes, reorders or changes a range that was already found:
the ranges of the document come first among the ranges of the longer one.
-/
theorem foldRanges_stable_under_append (classifier : Classifier) (document more : Document) :
    classifier.foldRanges document <+: classifier.foldRanges (document ++ more) := by
  rcases Document.blocks_append document more with ⟨later, hblocks⟩
  have hkept : document.blocks.filterMap (classifier.rangeFor? (document ++ more)) =
      document.blocks.filterMap (classifier.rangeFor? document) :=
    List.filterMap_congr fun block hblock =>
      rangeFor?_append classifier (Document.isWithin_of_mem_blocks hblock) more
  rw [foldRanges_eq_filterMap, foldRanges_eq_filterMap, hblocks, List.filterMap_append, hkept]
  exact List.prefix_append _ _

end Classifier
end BranchFold
