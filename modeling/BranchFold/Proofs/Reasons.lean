import BranchFold.Proofs.FoldFamily

/-!
# Which blocks are accepted, and why

The judgement of a block is a decision in three stages with a scan of lines at its end.  This module
says in plain terms which blocks may be accepted and what the reason is: the earliest guard that
answers yes for the header, or else the earliest rule about content on the first line that speaks
for the block.  The ranges of a document are exactly the blocks that pass the gate and have a
reason, and each range carries that reason.

Main definitions:

- {lit}`RuleSet.IsEarliest`: the first rule of a scope that answers yes for a line.
- {lit}`Classifier.GateOpen`, {lit}`Classifier.HasReason`: when a block is accepted.
- {lit}`Classifier.Reason`: the rule that accepts a block, and the line on which it does.

Main results:

- Theorem {lit}`Classifier.explain_eq_some_iff`: a verdict is given exactly for a reason.
- Theorem {lit}`Classifier.foldRanges_sound_and_complete`: the ranges of a document and their
  reasons.
-/

namespace BranchFold

/-! ## The earliest rule -/

namespace RuleSet

/-- Some rule of the scope answers yes for the line. -/
def Answers (set : RuleSet) (scope : Scope) (line : Line) : Prop :=
  ∃ rule ∈ set.rules, rule.scope = scope ∧ rule.accepts line = true

/-- The rule answers yes for the line, and no earlier rule of the same scope does. -/
def IsEarliest (set : RuleSet) (scope : Scope) (line : Line) (rule : Rule) : Prop :=
  rule.scope = scope ∧ rule.accepts line = true ∧
    ∃ before after, set.rules = before ++ rule :: after ∧
      ∀ other ∈ before, other.scope = scope → other.accepts line = false

variable {set : RuleSet} {scope : Scope} {line : Line}

/-- The earliest rule belongs to the set. -/
theorem IsEarliest.mem {rule : Rule} (h : set.IsEarliest scope line rule) : rule ∈ set.rules := by
  rcases h with ⟨-, -, before, after, hrules, -⟩
  simp [hrules]

/-- The first match is the earliest rule that answers yes. -/
theorem firstMatch_eq_some_iff {rule : Rule} :
    set.firstMatch line scope = some rule ↔ set.IsEarliest scope line rule := by
  rw [firstMatch, inScope, List.find?_filter, List.find?_eq_some_iff_append]
  simp only [beq_iff_eq, decide_eq_true_eq, Bool.not_eq_eq_eq_not, Bool.not_true]
  constructor
  · intro hgiven
    rcases hgiven with ⟨⟨hscope, haccepts⟩, before, after, hrules, hbefore⟩
    refine ⟨hscope, haccepts, before, after, hrules, ?_⟩
    intro other hother hsame
    simpa [hsame] using hbefore other hother
  · intro hgiven
    rcases hgiven with ⟨hscope, haccepts, before, after, hrules, hbefore⟩
    refine ⟨⟨hscope, haccepts⟩, before, after, hrules, ?_⟩
    intro other hother
    by_cases hsame : other.scope = scope
    · simp [hbefore other hother hsame]
    · simp [hsame]

/-- There is a first match exactly if some rule answers yes. -/
theorem exists_isEarliest_iff :
    (∃ rule, set.IsEarliest scope line rule) ↔ set.Answers scope line := by
  simp only [← firstMatch_eq_some_iff, ← Option.isSome_iff_exists]
  rw [firstMatch, List.find?_isSome]
  simp only [inScope, List.mem_filter, beq_iff_eq, Answers, and_assoc]

end RuleSet

/-! ## What speaks for a block -/

/-- The line is the one before the block. -/
def Document.IsHeader (document : Document) (block : Block) (line : Line) : Prop :=
  ∃ number : Nat, block.first = number + 1 ∧ document[number]? = some line

namespace Classifier

/-- The gate is off, or the block is deep enough, or its header carries a label. -/
def GateOpen (classifier : Classifier) (document : Document) (block : Block) : Prop :=
  classifier.policy.depthGate = false ∨ classifier.policy.depthThreshold < block.indent ∨
    ∃ line, document.IsHeader block line ∧ classifier.rules.Answers .gate line

/-- A line of the block itself that is neither passed over nor part of a block inside it. -/
structure Speaks (classifier : Classifier) (document : Document) (block : Block) (number : Nat)
    (line : Line) : Prop where
  line_eq : document[number]? = some line
  first_le : block.first ≤ number
  le_last : number ≤ block.last
  not_skippable : Document.isSkippable classifier.policy.commentMarkers line = false
  indent_le : Text.indent line ≤ block.indent

/-- The header is a guard, or a line that speaks for the block matches a rule about content. -/
def HasReason (classifier : Classifier) (document : Document) (block : Block) : Prop :=
  (∃ line, document.IsHeader block line ∧ classifier.rules.Answers .preceding line) ∨
    ∃ number line, classifier.Speaks document block number line ∧
      classifier.rules.Answers .content line

/-- The rule that accepts a block, and the number of the line on which it does. -/
inductive Reason (classifier : Classifier) (document : Document) (block : Block) :
    Rule → Int → Prop where
  /-- The earliest guard that answers yes for the header. -/
  | header {line : Line} {rule : Rule} (hheader : document.IsHeader block line)
      (hrule : classifier.rules.IsEarliest .preceding line rule) :
      Reason classifier document block rule (block.first - 1)
  /-- No guard answers yes for the header, if there is one; then the earliest rule about content
  that answers yes for the first line on which one does. -/
  | content {number : Nat} {line : Line} {rule : Rule}
      (hheader : ∀ line, document.IsHeader block line → ¬ classifier.rules.Answers .preceding line)
      (hspeaks : classifier.Speaks document block number line)
      (hrule : classifier.rules.IsEarliest .content line rule)
      (hleast : ∀ earlier line, earlier < number → classifier.Speaks document block earlier line →
        ¬ classifier.rules.Answers .content line) :
      Reason classifier document block rule number

/-! ## The header -/

variable {classifier : Classifier} {document : Document} {block : Block}

/-- The line before a block is found exactly if there is one. -/
theorem precedingLine_eq_some_iff {line : Line} :
    precedingLine block document = some line ↔ document.IsHeader block line := by
  unfold precedingLine Document.IsHeader
  constructor
  · intro h
    split_ifs at h with hfirst
    refine ⟨(block.first - 1).toNat, ?_, h⟩
    omega
  · intro hgiven
    rcases hgiven with ⟨number, hfirst, hline⟩
    have hlt : number < document.length := (List.getElem?_eq_some_iff.1 hline).1
    rw [if_pos (by omega), hfirst]
    simpa using hline

/-- The gate lets a block through exactly if it is open for it. -/
theorem passesGate_iff :
    classifier.passesGate block (precedingLine block document) = true ↔
      classifier.GateOpen document block := by
  simp only [passesGate, GateOpen, Bool.or_eq_true, Bool.not_eq_eq_eq_not, Bool.not_true,
    decide_eq_true_eq, Option.any_eq_true, or_assoc, precedingLine_eq_some_iff,
    ← RuleSet.exists_isEarliest_iff, ← RuleSet.firstMatch_eq_some_iff, Option.isSome_iff_exists]

/-- The guard of a block is the earliest one that answers yes for the header. -/
theorem guard_eq_some_iff {rule : Rule} :
    (precedingLine block document).bind (classifier.rules.firstMatch · .preceding) = some rule ↔
      ∃ line, document.IsHeader block line ∧
        classifier.rules.IsEarliest .preceding line rule := by
  simp only [Option.bind_eq_some_iff, precedingLine_eq_some_iff, RuleSet.firstMatch_eq_some_iff]

/-- A block has no guard exactly if none answers yes for the header. -/
theorem guard_eq_none_iff :
    (precedingLine block document).bind (classifier.rules.firstMatch · .preceding) = none ↔
      ∀ line, document.IsHeader block line → ¬ classifier.rules.Answers .preceding line := by
  rw [Option.eq_none_iff_forall_ne_some]
  constructor
  · intro h line hheader hanswers
    rcases RuleSet.exists_isEarliest_iff.2 hanswers with ⟨rule, hrule⟩
    exact h rule (guard_eq_some_iff.2 ⟨line, hheader, hrule⟩)
  · intro h rule hrule
    rcases guard_eq_some_iff.1 hrule with ⟨line, hheader, hearliest⟩
    exact h line hheader (RuleSet.exists_isEarliest_iff.1 ⟨rule, hearliest⟩)

/-! ## The scan of the content -/

/-- The rule that accepts the line of that number as part of a block of the given indentation. -/
def contentRuleAt? (classifier : Classifier) (indent : Int) (document : Document) (number : Nat) :
    Option Rule :=
  (document[number]?).bind (classifier.contentRule indent)

/-- From a line that exists, counted from either end, the scan always comes to an end. -/
theorem scanContent_isOk (classifier : Classifier) (indent : Int) (document : Document)
    {number : Int} {count : Nat} (hfirst : -document.length ≤ number)
    (hlast : number + count ≤ document.length) :
    ∃ outcome, classifier.scanContent indent document number count = .ok outcome := by
  induction count generalizing number with
  | zero => exact ⟨none, rfl⟩
  | succ count ih =>
    have hexists : document.line? number ≠ none := by
      rw [ne_eq, Document.line?_eq_none_iff]
      omega
    rcases Option.ne_none_iff_exists'.1 hexists with ⟨line, hline⟩
    rw [scanContent, hline]
    dsimp only
    cases classifier.contentRule indent line with
    | some rule => exact ⟨_, rfl⟩
    | none => exact ih (by omega) (by omega)

/-- The scan stops at the first line that some rule accepts. -/
theorem scanContent_eq_some_iff {indent : Int} {number count : Nat} {verdict : Verdict}
    (h : number + count ≤ document.length) :
    classifier.scanContent indent document number count = .ok (some verdict) ↔
      ∃ i rule, (number ≤ i ∧ i < number + count) ∧
        classifier.contentRuleAt? indent document i = some rule ∧
        (∀ j, number ≤ j → j < i → classifier.contentRuleAt? indent document j = none) ∧
        verdict = ⟨rule.name, rule.category, i⟩ := by
  -- The scan moves on, so the first line is not fixed while the lines left are counted down.
  induction count generalizing number with
  | zero =>
    simp only [scanContent]
    constructor
    · intro hnone
      cases hnone
    · intro hgiven
      rcases hgiven with ⟨i, rule, ⟨hle, hlt⟩, -⟩
      omega
  | succ count ih =>
    have hline : document[number]? = some document[number] := List.getElem?_eq_getElem (by omega)
    have hat : classifier.contentRuleAt? indent document number =
        classifier.contentRule indent document[number] := by
      simp [contentRuleAt?, hline]
    rw [scanContent, Document.line?_natCast, hline]
    dsimp only
    rw [← hat]
    cases hrule : classifier.contentRuleAt? indent document number with
    | some rule =>
      simp only [Except.ok.injEq, Option.some.injEq]
      constructor
      · intro heq
        subst heq
        exact ⟨number, rule, by omega, hrule, fun j hle hlt => by omega, rfl⟩
      · intro hgiven
        rcases hgiven with ⟨i, rule', ⟨hle, hlt⟩, hrule', hbefore, rfl⟩
        have hi : i = number := by
          by_contra hne
          have hnone := hbefore number le_rfl (by omega)
          simp [hrule] at hnone
        subst hi
        rw [hrule] at hrule'
        cases hrule'
        rfl
    | none =>
      have hnext := ih (show number + 1 + count ≤ document.length by omega)
      push_cast at hnext
      rw [hnext]
      constructor
      · intro hgiven
        rcases hgiven with ⟨i, rule, ⟨hle, hlt⟩, hi, hbefore, rfl⟩
        refine ⟨i, rule, by omega, hi, ?_, rfl⟩
        intro j hj hji
        rcases Nat.eq_or_lt_of_le hj with rfl | hj
        · exact hrule
        · exact hbefore j hj hji
      · intro hgiven
        rcases hgiven with ⟨i, rule, ⟨hle, hlt⟩, hi, hbefore, rfl⟩
        have hne : i ≠ number := by
          intro heq
          subst heq
          simp [hrule] at hi
        exact ⟨i, rule, by omega, hi, fun j hj hji => hbefore j (by omega) hji, rfl⟩

/-- A line of a block is accepted by the earliest rule about content if it speaks for the block. -/
theorem contentRuleAt?_eq_some_iff {number : Nat} {rule : Rule} (hfirst : block.first ≤ number)
    (hlast : number ≤ block.last) :
    classifier.contentRuleAt? block.indent document number = some rule ↔
      ∃ line, classifier.Speaks document block number line ∧
        classifier.rules.IsEarliest .content line rule := by
  simp only [contentRuleAt?, Option.bind_eq_some_iff, contentRule, ← RuleSet.firstMatch_eq_some_iff]
  constructor
  · intro hgiven
    rcases hgiven with ⟨line, hline, hrule⟩
    split_ifs at hrule with hskip hindent
    exact ⟨line, ⟨hline, hfirst, hlast, by simpa using hskip, by omega⟩, hrule⟩
  · intro hgiven
    rcases hgiven with ⟨line, hspeaks, hrule⟩
    refine ⟨line, hspeaks.line_eq, ?_⟩
    rw [if_neg (by simp [hspeaks.not_skippable]), if_neg (not_lt.2 hspeaks.indent_le), hrule]

/-- A line of a block is accepted by no rule if it does not speak for the block or none answers. -/
theorem contentRuleAt?_eq_none_iff {number : Nat} (hfirst : block.first ≤ number)
    (hlast : number ≤ block.last) :
    classifier.contentRuleAt? block.indent document number = none ↔
      ∀ line, classifier.Speaks document block number line →
        ¬ classifier.rules.Answers .content line := by
  rw [Option.eq_none_iff_forall_ne_some]
  constructor
  · intro h line hspeaks hanswers
    rcases RuleSet.exists_isEarliest_iff.2 hanswers with ⟨rule, hrule⟩
    exact h rule ((contentRuleAt?_eq_some_iff hfirst hlast).2 ⟨line, hspeaks, hrule⟩)
  · intro h rule hrule
    rcases (contentRuleAt?_eq_some_iff hfirst hlast).1 hrule with ⟨line, hspeaks, hearliest⟩
    exact h line hspeaks (RuleSet.exists_isEarliest_iff.1 ⟨rule, hearliest⟩)

/-! ## The verdict -/

/-- The scan of a block of the document runs over exactly the lines of the block. -/
theorem contentLength_of_mem_blocks (h : block ∈ document.blocks) :
    ∃ first : Nat, block.first = first ∧ first + contentLength block document ≤ document.length ∧
      ∀ number : Nat, (first ≤ number ∧ number < first + contentLength block document) ↔
        (block.first ≤ number ∧ number ≤ block.last) := by
  rcases Document.bounds_of_mem_blocks h with ⟨hnonneg, hle, hlt⟩
  refine ⟨block.first.toNat, by omega, ?_, ?_⟩
  · unfold contentLength
    omega
  · intro number
    unfold contentLength
    omega

/-- A block that does not begin before the start of the document is judged without a fault. -/
theorem explain_isOk_of_first (classifier : Classifier) (h : -document.length ≤ block.first) :
    ∃ outcome, classifier.explain block document = .ok outcome := by
  unfold explain
  dsimp only
  split_ifs
  · split
    · exact ⟨_, rfl⟩
    · by_cases hempty : contentLength block document = 0
      · rw [hempty]
        exact ⟨none, rfl⟩
      · refine scanContent_isOk classifier block.indent document h ?_
        unfold contentLength at hempty ⊢
        omega
  · exact ⟨none, rfl⟩

/-- Every block of the document is judged without a fault. -/
theorem explain_isOk (classifier : Classifier) (h : block ∈ document.blocks) :
    ∃ outcome, classifier.explain block document = .ok outcome := by
  have hnonneg := (Document.bounds_of_mem_blocks h).1
  exact explain_isOk_of_first classifier (by omega)

/-- The scan of a block of the document finds the first line that speaks for it. -/
theorem scanContent_block_eq_some_iff {verdict : Verdict} (h : block ∈ document.blocks) :
    classifier.scanContent block.indent document block.first (contentLength block document) =
        .ok (some verdict) ↔
      ∃ number line rule, classifier.Speaks document block number line ∧
        classifier.rules.IsEarliest .content line rule ∧
        (∀ earlier line, earlier < number → classifier.Speaks document block earlier line →
          ¬ classifier.rules.Answers .content line) ∧
        verdict = ⟨rule.name, rule.category, number⟩ := by
  rcases contentLength_of_mem_blocks h with ⟨first, hfirst, hlength, hlines⟩
  rw [hfirst, scanContent_eq_some_iff hlength]
  constructor
  · intro hgiven
    rcases hgiven with ⟨number, rule, hnumber, hrule, hbefore, rfl⟩
    rcases (hlines number).1 hnumber with ⟨hge, hle⟩
    rcases (contentRuleAt?_eq_some_iff hge hle).1 hrule with ⟨line, hspeaks, hearliest⟩
    refine ⟨number, line, rule, hspeaks, hearliest, ?_, rfl⟩
    intro earlier line' hlt hspeaks'
    have hnone := hbefore earlier ((hlines earlier).2 ⟨hspeaks'.first_le, hspeaks'.le_last⟩).1 hlt
    exact (contentRuleAt?_eq_none_iff hspeaks'.first_le hspeaks'.le_last).1 hnone line' hspeaks'
  · intro hgiven
    rcases hgiven with ⟨number, line, rule, hspeaks, hearliest, hleast, rfl⟩
    refine ⟨number, rule, (hlines number).2 ⟨hspeaks.first_le, hspeaks.le_last⟩, ?_, ?_, rfl⟩
    · exact (contentRuleAt?_eq_some_iff hspeaks.first_le hspeaks.le_last).2
        ⟨line, hspeaks, hearliest⟩
    · intro earlier hge hlt
      have hle := hspeaks.le_last
      refine (contentRuleAt?_eq_none_iff (by omega) (by omega)).2 ?_
      intro line' hspeaks'
      exact hleast earlier line' hlt hspeaks'

/-- A verdict on a block of the document is given exactly for a reason, past an open gate. -/
theorem explain_eq_some_iff {verdict : Verdict} (h : block ∈ document.blocks) :
    classifier.explain block document = .ok (some verdict) ↔
      classifier.GateOpen document block ∧
        ∃ rule number, classifier.Reason document block rule number ∧
          verdict = ⟨rule.name, rule.category, number⟩ := by
  unfold explain
  dsimp only
  by_cases hgate : classifier.passesGate block (precedingLine block document) = true
  · rw [if_pos hgate]
    simp only [passesGate_iff.1 hgate, true_and]
    cases hguard : (precedingLine block document).bind
        (classifier.rules.firstMatch · .preceding) with
    | some rule =>
      rcases guard_eq_some_iff.1 hguard with ⟨line, hheader, hearliest⟩
      simp only [Except.ok.injEq, Option.some.injEq]
      constructor
      · intro heq
        subst heq
        exact ⟨rule, _, .header hheader hearliest, rfl⟩
      · intro hgiven
        rcases hgiven with ⟨rule', number, hreason, rfl⟩
        cases hreason with
        | header hheader' hearliest' =>
          have hsame := guard_eq_some_iff.2 ⟨_, hheader', hearliest'⟩
          rw [hguard] at hsame
          cases hsame
          rfl
        | content hnone =>
          exact absurd (RuleSet.exists_isEarliest_iff.1 ⟨rule, hearliest⟩) (hnone line hheader)
    | none =>
      have hnone := guard_eq_none_iff.1 hguard
      dsimp only
      rw [scanContent_block_eq_some_iff h]
      constructor
      · intro hgiven
        rcases hgiven with ⟨number, line, rule, hspeaks, hearliest, hleast, rfl⟩
        exact ⟨rule, number, .content hnone hspeaks hearliest hleast, rfl⟩
      · intro hgiven
        rcases hgiven with ⟨rule, number, hreason, rfl⟩
        cases hreason with
        | header hheader hearliest =>
          exact absurd (RuleSet.exists_isEarliest_iff.1 ⟨rule, hearliest⟩) (hnone _ hheader)
        | content _ hspeaks hearliest hleast =>
          exact ⟨_, _, rule, hspeaks, hearliest, hleast, rfl⟩
  · have hclosed : ¬ classifier.GateOpen document block := fun hopen =>
      hgate (passesGate_iff.2 hopen)
    simp [hgate, hclosed]

/-- There is a reason to accept a block exactly if its header or its content gives one. -/
theorem exists_reason_iff :
    (∃ rule number, classifier.Reason document block rule number) ↔
      classifier.HasReason document block := by
  constructor
  · intro hgiven
    rcases hgiven with ⟨rule, number, hreason⟩
    cases hreason with
    | header hheader hearliest =>
      exact Or.inl ⟨_, hheader, RuleSet.exists_isEarliest_iff.1 ⟨rule, hearliest⟩⟩
    | content _ hspeaks hearliest _ =>
      exact Or.inr ⟨_, _, hspeaks, RuleSet.exists_isEarliest_iff.1 ⟨rule, hearliest⟩⟩
  · intro hreason
    by_cases hguard : ∃ line, document.IsHeader block line ∧
        classifier.rules.Answers .preceding line
    · rcases hguard with ⟨line, hheader, hanswers⟩
      rcases RuleSet.exists_isEarliest_iff.2 hanswers with ⟨rule, hearliest⟩
      exact ⟨rule, _, .header hheader hearliest⟩
    · have hcontent := hreason.resolve_left hguard
      classical
      rcases Nat.find_spec hcontent with ⟨line, hspeaks, hanswers⟩
      rcases RuleSet.exists_isEarliest_iff.2 hanswers with ⟨rule, hearliest⟩
      refine ⟨rule, _, .content ?_ hspeaks hearliest ?_⟩
      · intro line' hheader hanswers'
        exact hguard ⟨line', hheader, hanswers'⟩
      · intro earlier line' hlt hspeaks' hanswers'
        exact Nat.find_min hcontent hlt ⟨line', hspeaks', hanswers'⟩

/-- A block of the document has a range exactly for a reason, past an open gate. -/
theorem rangeFor?_eq_some_iff {range : FoldRange} (h : block ∈ document.blocks) :
    classifier.rangeFor? document block = some range ↔
      classifier.GateOpen document block ∧
        ∃ rule number, classifier.Reason document block rule number ∧
          range = rangeOf block ⟨rule.name, rule.category, number⟩ := by
  have hverdict (verdict : Verdict) : classifier.verdict? document block = some verdict ↔
      classifier.explain block document = .ok (some verdict) := by
    rcases explain_isOk classifier h with ⟨outcome, houtcome⟩
    simp [verdict?, houtcome, Except.toOption]
  simp only [rangeFor?, Option.map_eq_some_iff, hverdict, explain_eq_some_iff h]
  constructor
  · intro hgiven
    rcases hgiven with ⟨verdict, ⟨hgate, rule, number, hreason, rfl⟩, rfl⟩
    exact ⟨hgate, rule, number, hreason, rfl⟩
  · intro hgiven
    rcases hgiven with ⟨hgate, rule, number, hreason, rfl⟩
    exact ⟨_, ⟨hgate, rule, number, hreason, rfl⟩, rfl⟩

/-- A block of the document has a range exactly if the gate is open for it and there is a reason. -/
theorem rangeFor?_isSome_iff (h : block ∈ document.blocks) :
    (classifier.rangeFor? document block).isSome = true ↔
      classifier.GateOpen document block ∧ classifier.HasReason document block := by
  simp only [Option.isSome_iff_exists, rangeFor?_eq_some_iff h, ← exists_reason_iff]
  constructor
  · intro hgiven
    rcases hgiven with ⟨range, hgate, rule, number, hreason, -⟩
    exact ⟨hgate, rule, number, hreason⟩
  · intro hgiven
    rcases hgiven with ⟨hgate, rule, number, hreason⟩
    exact ⟨_, hgate, rule, number, hreason, rfl⟩

end Classifier

/-! ## Families of built-in rules -/

namespace Builtin

/-- The built-in rules about the line before a block are the guards. -/
theorem category_of_preceding {rule : Rule} (hrule : rule ∈ rules)
    (hscope : rule.scope = .preceding) : rule.category = "guard" := by
  have hall : ∀ rule ∈ rules, rule.scope = .preceding → rule.category = "guard" := by decide
  exact hall rule hrule hscope

/-- The built-in rules about content are keywords and reports. -/
theorem category_of_content {rule : Rule} (hrule : rule ∈ rules) (hscope : rule.scope = .content) :
    rule.category = "keyword" ∨ rule.category = "log" := by
  have hall : ∀ rule ∈ rules, rule.scope = .content →
      rule.category = "keyword" ∨ rule.category = "log" := by decide
  exact hall rule hrule hscope

end Builtin

/-- The line is the header of the range. -/
def FoldRange.IsHeader (range : FoldRange) (document : Document) (line : Line) : Prop :=
  ∃ number : Nat, range.header = some (number : Int) ∧ document[number]? = some line

namespace Classifier

/-- The header of a range is the line before its block. -/
theorem rangeOf_isHeader_iff (document : Document) (block : Block) (verdict : Verdict)
    (line : Line) :
    (rangeOf block verdict).IsHeader document line ↔ document.IsHeader block line := by
  unfold FoldRange.IsHeader Document.IsHeader rangeOf
  constructor
  · intro hgiven
    rcases hgiven with ⟨number, hheader, hline⟩
    split_ifs at hheader
    rw [Option.some.injEq] at hheader
    exact ⟨number, by omega, hline⟩
  · intro hgiven
    rcases hgiven with ⟨number, hfirst, hline⟩
    refine ⟨number, ?_, hline⟩
    rw [if_pos (by omega), hfirst]
    simp

/-- Under the built-in rules a range is a guard that its header matches, or it is a keyword or a
report and no guard matches its header. -/
theorem builtin_category {policy : Policy} {document : Document} {range : FoldRange}
    (hrange : range ∈ (⟨Builtin.ruleSet, policy⟩ : Classifier).foldRanges document) :
    (range.category = "guard" ∧ ∃ line rule, range.IsHeader document line ∧
      Builtin.ruleSet.IsEarliest .preceding line rule ∧ rule.name = range.rule) ∨
    ((range.category = "keyword" ∨ range.category = "log") ∧
      ∀ line, range.IsHeader document line → ¬ Builtin.ruleSet.Answers .preceding line) := by
  rw [foldRanges_eq_filterMap, List.mem_filterMap] at hrange
  rcases hrange with ⟨block, hblock, hrange⟩
  rcases (rangeFor?_eq_some_iff hblock).1 hrange with ⟨-, rule, number, hreason, rfl⟩
  simp only [rangeOf_isHeader_iff]
  cases hreason with
  | header hheader hearliest =>
    left
    have hguard := Builtin.category_of_preceding hearliest.mem hearliest.1
    exact ⟨hguard, _, rule, hheader, hearliest, rfl⟩
  | content hnone _ hearliest _ =>
    right
    exact ⟨Builtin.category_of_content hearliest.mem hearliest.1, hnone⟩

/--
The ranges of a document are sound and complete with their reasons.  Going through the blocks in
order, a block has a range exactly if the gate is open for it and its header or its content gives a
reason; the judgement never fails, and the range carries the name and the family of the rule that
is the reason.  Under the built-in rules a range belongs to the guards exactly if a guard matches
its header, and then it names a guard that does; all other ranges are keywords or reports.
-/
theorem foldRanges_sound_and_complete (classifier : Classifier) (document : Document) :
    classifier.foldRanges document = document.blocks.filterMap (classifier.rangeFor? document) ∧
    (∀ block ∈ document.blocks,
      (∃ outcome, classifier.explain block document = .ok outcome) ∧
      ((classifier.rangeFor? document block).isSome = true ↔
        classifier.GateOpen document block ∧ classifier.HasReason document block) ∧
      ∀ range, classifier.rangeFor? document block = some range ↔
        classifier.GateOpen document block ∧
          ∃ rule number, classifier.Reason document block rule number ∧
            range = rangeOf block ⟨rule.name, rule.category, number⟩) ∧
    ∀ policy : Policy, ∀ range ∈ (⟨Builtin.ruleSet, policy⟩ : Classifier).foldRanges document,
      (range.category = "guard" ↔
        ∃ line, range.IsHeader document line ∧ Builtin.ruleSet.Answers .preceding line) ∧
      (range.category = "guard" → ∃ line, ∃ rule ∈ Builtin.rules, range.IsHeader document line ∧
        rule.scope = .preceding ∧ rule.accepts line = true ∧ rule.name = range.rule) ∧
      (range.category ≠ "guard" → range.category = "keyword" ∨ range.category = "log") := by
  refine ⟨foldRanges_eq_filterMap classifier document, ?_, ?_⟩
  · intro block hblock
    exact ⟨explain_isOk classifier hblock, rangeFor?_isSome_iff hblock,
      fun range => rangeFor?_eq_some_iff hblock⟩
  · intro policy range hrange
    rcases builtin_category hrange with ⟨hguard, line, rule, hheader, hearliest, hname⟩ |
      ⟨hother, hnone⟩
    · refine ⟨⟨fun _ => ?_, fun _ => hguard⟩, fun _ => ?_, fun hne => absurd hguard hne⟩
      · exact ⟨line, hheader, RuleSet.exists_isEarliest_iff.1 ⟨rule, hearliest⟩⟩
      · exact ⟨line, rule, hearliest.mem, hheader, hearliest.1, hearliest.2.1, hname⟩
    · have hne : range.category ≠ "guard" := by
        rcases hother with hkeyword | hlog
        · simp [hkeyword]
        · simp [hlog]
      refine ⟨⟨fun hguard => absurd hguard hne, ?_⟩, fun hguard => absurd hguard hne,
        fun _ => hother⟩
      intro hgiven
      rcases hgiven with ⟨line, hheader, hanswers⟩
      exact absurd hanswers (hnone line hheader)

end Classifier
end BranchFold
