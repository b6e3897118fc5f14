import BranchFold.Proofs.Evidence

/-!
# Judging blocks of any numbers

A host may ask about a block that no document has: one that begins before the first line, counted
from the end or not, or one that ends behind the last.  This module says exactly when such a
judgement fails.  It also compares two judgements of the same block: as long as the two gates agree
and the two rule sets show the same wherever they are asked, the judgements show the same, whatever
the numbers of the block.

Main definitions:

- {lit}`Classifier.ReachesBeforeStart`: the judgement reads a line before the start of the document.
- {lit}`RuleSet.SeenAlike`: rule sets of which the same is seen through a view of verdicts.

Main results:

- Theorem {lit}`Classifier.explain_fails_exactly_before_start`: when a judgement fails, and where
  the verdicts on the blocks of a document lie.
- Theorem {lit}`Classifier.explain_map_eq`: two judgements that show the same.
-/

namespace BranchFold
namespace Classifier

variable {classifier : Classifier} {document : Document} {block : Block}

/-! ## Failing judgements -/

/-- The block begins before the start of the document even when its number is counted from the end,
it has lines, and the gate does not reject it for its indentation. -/
def ReachesBeforeStart (classifier : Classifier) (document : Document) (block : Block) : Prop :=
  block.first < -document.length ∧ block.first ≤ block.last ∧
    ¬ (classifier.policy.depthGate = true ∧ block.indent ≤ classifier.policy.depthThreshold)

instance (classifier : Classifier) (document : Document) (block : Block) :
    Decidable (classifier.ReachesBeforeStart document block) :=
  inferInstanceAs (Decidable (_ ∧ _ ∧ ¬ (_ ∧ _)))

/-- No line stands before a block that begins at the first line or earlier. -/
theorem precedingLine_eq_none (h : block.first ≤ 0) : precedingLine block document = none := by
  rw [precedingLine, if_neg (by omega)]

/-- A scan that begins before the start of the document fails on its first line. -/
theorem scanContent_eq_error (classifier : Classifier) (indent : Int) {number : Int} {count : Nat}
    (hnumber : number < -document.length) (hcount : 0 < count) :
    classifier.scanContent indent document number count = .error ⟨number⟩ := by
  have hmissing : document.line? number = none :=
    (Document.line?_eq_none_iff document number).2 (Or.inl hnumber)
  obtain ⟨count, rfl⟩ := Nat.exists_eq_succ_of_ne_zero hcount.ne'
  rw [scanContent, hmissing]

/-- Without a line before the block, the gate looks at the indentation alone. -/
theorem passesGate_none_iff :
    classifier.passesGate block none = true ↔
      ¬ (classifier.policy.depthGate = true ∧
        block.indent ≤ classifier.policy.depthThreshold) := by
  cases hgate : classifier.policy.depthGate <;> simp [passesGate, hgate]

/-- A judgement that reads a line before the start of the document fails on the first line of the
block. -/
theorem ReachesBeforeStart.explain_eq (h : classifier.ReachesBeforeStart document block) :
    classifier.explain block document = .error ⟨block.first⟩ := by
  rcases h with ⟨hfirst, hlast, hdeep⟩
  have hcount : 0 < contentLength block document := by
    unfold contentLength
    omega
  unfold explain
  dsimp only
  rw [precedingLine_eq_none (by omega), if_pos (passesGate_none_iff.2 hdeep)]
  exact scanContent_eq_error classifier block.indent hfirst hcount

/-- Every other judgement ends well. -/
theorem explain_isOk_of_not_reachesBeforeStart
    (h : ¬ classifier.ReachesBeforeStart document block) :
    ∃ outcome, classifier.explain block document = .ok outcome := by
  by_cases hfirst : block.first < -document.length
  · unfold explain
    dsimp only
    rw [precedingLine_eq_none (by omega)]
    split_ifs with hgate
    · -- The gate is open, so the block can only be empty.
      have hempty : contentLength block document = 0 := by
        have hlast : ¬ block.first ≤ block.last := fun hle =>
          h ⟨hfirst, hle, passesGate_none_iff.1 hgate⟩
        unfold contentLength
        omega
      rw [hempty]
      exact ⟨none, rfl⟩
    · exact ⟨none, rfl⟩
  · exact explain_isOk_of_first classifier (by omega)

/-- The verdict on a block of the document lies on its header or on one of its lines. -/
theorem bounds_of_explain {verdict : Verdict} (hblock : block ∈ document.blocks)
    (h : classifier.explain block document = .ok (some verdict)) :
    (block.first - 1 ≤ verdict.line ∧ verdict.line ≤ block.last) ∧
      0 ≤ verdict.line ∧ verdict.line < document.length := by
  rcases Document.bounds_of_mem_blocks hblock with ⟨hnonneg, hle, hlt⟩
  rcases (explain_eq_some_iff hblock).1 h with ⟨-, rule, number, hreason, rfl⟩
  dsimp only
  cases hreason with
  | header hheader hrule =>
    rcases hheader with ⟨header, hfirst, -⟩
    omega
  | content _ hspeaks _ _ =>
    have hfirst := hspeaks.first_le
    have hlast := hspeaks.le_last
    omega

/--
The judgement of a block fails exactly if the block begins before the start of the document, has
lines and is not rejected by the gate for its indentation; the fault then names the first line of
the block.  In every other case there is a verdict or a rejection.  The judgement of a block of the
document never fails, and the line of a verdict is the header or a line of the block and a line of
the document.
-/
theorem explain_fails_exactly_before_start (classifier : Classifier) (block : Block)
    (document : Document) :
    (∀ fault, classifier.explain block document = .error fault ↔
      classifier.ReachesBeforeStart document block ∧ fault = ⟨block.first⟩) ∧
    (¬ classifier.ReachesBeforeStart document block →
      ∃ outcome, classifier.explain block document = .ok outcome) ∧
    (block ∈ document.blocks →
      ∃ outcome, classifier.explain block document = .ok outcome ∧
        ∀ verdict, outcome = some verdict →
          (block.first - 1 ≤ verdict.line ∧ verdict.line ≤ block.last) ∧
            0 ≤ verdict.line ∧ verdict.line < document.length) := by
  refine ⟨?_, explain_isOk_of_not_reachesBeforeStart, ?_⟩
  · intro fault
    by_cases hreaches : classifier.ReachesBeforeStart document block
    · simp [hreaches, hreaches.explain_eq, eq_comm]
    · rcases explain_isOk_of_not_reachesBeforeStart hreaches with ⟨outcome, houtcome⟩
      simp [hreaches, houtcome]
  · intro hblock
    rcases explain_isOk classifier hblock with ⟨outcome, houtcome⟩
    refine ⟨outcome, houtcome, ?_⟩
    intro verdict hverdict
    exact bounds_of_explain hblock (by rw [houtcome, hverdict])

/-- In a document of four lines the number minus five is missing and minus four is not; a gate that
rejects the block keeps the judgement from reading the line.  A block of the document itself is
accepted on its header. -/
theorem explain_around_start_of_four_lines :
    let document : Document :=
      ["if (p == NULL)".toList, "  return -1;".toList, "".toList, "use(p);".toList]
    let gated : Classifier := { policy := { depthGate := true, depthThreshold := 2 } }
    explain {} ⟨-5, 0, 2⟩ document = .error ⟨-5⟩ ∧
      (∃ outcome, explain {} ⟨-4, 0, 2⟩ document = .ok outcome) ∧
      (∃ outcome, gated.explain ⟨-5, 0, 2⟩ document = .ok outcome) ∧
      (⟨1, 2, 2⟩ : Block) ∈ document.blocks ∧
      ∃ verdict, explain {} ⟨1, 2, 2⟩ document = .ok (some verdict) ∧
        0 ≤ verdict.line ∧ verdict.line ≤ 2 := by
  intro document gated
  have hfault := explain_fails_exactly_before_start {} ⟨-5, 0, 2⟩ document
  have hfromEnd := explain_fails_exactly_before_start {} ⟨-4, 0, 2⟩ document
  have hgated := explain_fails_exactly_before_start gated ⟨-5, 0, 2⟩ document
  have hmem : (⟨1, 2, 2⟩ : Block) ∈ document.blocks := by decide
  obtain ⟨outcome, houtcome, hlines⟩ :=
    (explain_fails_exactly_before_start {} ⟨1, 2, 2⟩ document).2.2 hmem
  have hverdict : explain {} ⟨1, 2, 2⟩ document = .ok (some ⟨"null_check", "guard", 0⟩) := by
    decide +kernel
  obtain rfl : outcome = some ⟨"null_check", "guard", 0⟩ := by
    rw [houtcome] at hverdict
    exact Except.ok.inj hverdict
  refine ⟨(hfault.1 ⟨-5⟩).2 ⟨by decide, rfl⟩, hfromEnd.2.1 (by decide), hgated.2.1 (by decide),
    hmem, _, houtcome, ?_⟩
  exact (hlines _ rfl).1

end Classifier

/-! ## What is seen of a rule set -/

/-- The verdict that a rule gives on the line of that number. -/
def Rule.verdictOn (rule : Rule) (number : Int) : Verdict :=
  ⟨rule.name, rule.category, number⟩

namespace RuleSet

variable {α : Type} {view : Verdict → α} {set set' : RuleSet}

/-- Wherever the two rule sets are asked, neither has a match, or both have one and the same is seen
of the verdicts that the two matches give. -/
def SeenAlike (view : Verdict → α) (set set' : RuleSet) : Prop :=
  ∀ scope line, Option.Rel
    (fun rule rule' => ∀ number, view (rule.verdictOn number) = view (rule'.verdictOn number))
    (set.firstMatch line scope) (set'.firstMatch line scope)

/-- Rule sets with the same matches are seen alike. -/
theorem seenAlike_of_firstMatch_eq
    (h : ∀ line scope, set.firstMatch line scope = set'.firstMatch line scope) :
    SeenAlike view set set' := by
  intro scope line
  rw [h]
  cases set'.firstMatch line scope with
  | none => exact .none
  | some rule => exact .some fun _ => rfl

/-- Rule sets that are seen alike have matches for the same lines. -/
theorem SeenAlike.isSome_eq (h : SeenAlike view set set') (scope : Scope) (line : Line) :
    (set.firstMatch line scope).isSome = (set'.firstMatch line scope).isSome := by
  have hmatch := h scope line
  generalize set.firstMatch line scope = found at hmatch ⊢
  generalize set'.firstMatch line scope = found' at hmatch ⊢
  cases hmatch with
  | none => rfl
  | some _ => rfl

end RuleSet

/-! ## Two judgements of one block -/

namespace Classifier

variable {classifier classifier' : Classifier} {document : Document} {block : Block}
  {α : Type} {view : Verdict → α}

/-- Two scans show the same: they pass over the same lines and stop at the same one. -/
theorem scanContent_map_eq
    (hmarkers : classifier.policy.commentMarkers = classifier'.policy.commentMarkers)
    (hrules : RuleSet.SeenAlike view classifier.rules classifier'.rules)
    (indent : Int) (document : Document) (number : Int) (count : Nat) :
    (classifier.scanContent indent document number count).map (Option.map view) =
      (classifier'.scanContent indent document number count).map (Option.map view) := by
  induction count generalizing number with
  | zero => rfl
  | succ count ih =>
    simp only [scanContent, contentRule, ← hmarkers]
    cases document.line? number with
    | none => rfl
    | some line =>
      dsimp only
      split_ifs
      · exact ih (number + 1)
      · exact ih (number + 1)
      · have hmatch := hrules .content line
        generalize classifier.rules.firstMatch line .content = found at hmatch ⊢
        generalize classifier'.rules.firstMatch line .content = found' at hmatch ⊢
        cases hmatch with
        | none => exact ih (number + 1)
        | some hview => exact congrArg (fun seen => Except.ok (some seen)) (hview number)

/-- Two judgements of one block show the same if the gates agree and the rules are seen alike,
whatever the numbers of the block. -/
theorem explain_map_eq
    (hmarkers : classifier.policy.commentMarkers = classifier'.policy.commentMarkers)
    (hrules : RuleSet.SeenAlike view classifier.rules classifier'.rules)
    (hgate : classifier.passesGate block (precedingLine block document) =
      classifier'.passesGate block (precedingLine block document)) :
    (classifier.explain block document).map (Option.map view) =
      (classifier'.explain block document).map (Option.map view) := by
  have hscan := scanContent_map_eq hmarkers hrules block.indent document block.first
    (contentLength block document)
  unfold explain
  dsimp only
  rw [← hgate]
  split_ifs
  · cases precedingLine block document with
    | none => exact hscan
    | some line =>
      have hmatch := hrules .preceding line
      rw [Option.bind_some, Option.bind_some]
      generalize classifier.rules.firstMatch line .preceding = found at hmatch ⊢
      generalize classifier'.rules.firstMatch line .preceding = found' at hmatch ⊢
      cases hmatch with
      | none => exact hscan
      | some hview =>
        exact congrArg (fun seen => Except.ok (some seen)) (hview (block.first - 1))
  · rfl

/-- Two judgements of one block are the same if the gates agree and the rules have the same
matches. -/
theorem explain_eq
    (hmarkers : classifier.policy.commentMarkers = classifier'.policy.commentMarkers)
    (hrules : ∀ line scope,
      classifier.rules.firstMatch line scope = classifier'.rules.firstMatch line scope)
    (hgate : classifier.passesGate block (precedingLine block document) =
      classifier'.passesGate block (precedingLine block document)) :
    classifier.explain block document = classifier'.explain block document := by
  have hseen : RuleSet.SeenAlike id classifier.rules classifier'.rules :=
    RuleSet.seenAlike_of_firstMatch_eq hrules
  simpa [Except.map_id] using explain_map_eq hmarkers hseen hgate

end Classifier
end BranchFold
