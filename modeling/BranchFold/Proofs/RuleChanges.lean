import BranchFold.Proofs.AnyBlock

/-!
# More rules, and rules in another order

Hosts extend the built-in rules and may try them in any order.  Rules that come after the others
never take a verdict away: a block that was accepted stays accepted, and where a guard accepted it,
for the same reason.  The order of the rules decides only which of several rules is named: whether
a block is accepted, and on which line, is the same in every order.  Among the keywords of the
built-in rules even the name stays, since no line begins with two of them.

Main definitions:

- {lit}`Classifier.Widens`: a classifier that asks for no more than another one.
- {lit}`Classifier.acceptingLine`: a judgement without the name of the rule.

Main results:

- Theorem {lit}`Classifier.extension_only_adds_ranges`: further rules and fewer markers keep every
  range.
- Theorem {lit}`Classifier.rule_order_decides_attribution_only`: judgements under rules in another
  order.
-/

namespace BranchFold

/-! ## The rules that answer -/

namespace RuleSet

variable {set : RuleSet} {scope : Scope} {line : Line}

/-- There is a first match exactly if some rule of the scope answers yes. -/
theorem isSome_firstMatch_iff :
    (set.firstMatch line scope).isSome = true ↔ set.Answers scope line := by
  simp only [← exists_isEarliest_iff, ← firstMatch_eq_some_iff, Option.isSome_iff_exists]

/-- Further rules leave the answers of a rule set. -/
theorem Answers.extended (h : set.Answers scope line) (further : List Rule) :
    (set.extended further).Answers scope line := by
  rcases h with ⟨rule, hrule, hscope, haccepts⟩
  exact ⟨rule, List.mem_append_left _ hrule, hscope, haccepts⟩

/-- Further rules come after the earliest one. -/
theorem IsEarliest.extended {rule : Rule} (h : set.IsEarliest scope line rule)
    (further : List Rule) : (set.extended further).IsEarliest scope line rule := by
  rcases h with ⟨hscope, haccepts, before, after, hrules, hbefore⟩
  refine ⟨hscope, haccepts, before, after ++ further, ?_, hbefore⟩
  simp [RuleSet.extended, hrules]

end RuleSet

/-! ## Classifiers that ask for less -/

/-- No line becomes skippable when there are fewer markers. -/
theorem Document.isSkippable_of_subset {markers markers' : List Text} {line : Line}
    (hsubset : markers' ⊆ markers) (h : isSkippable markers line = false) :
    isSkippable markers' line = false := by
  simp only [isSkippable, Bool.or_eq_false_iff, List.any_eq_false] at h ⊢
  exact ⟨h.1, fun marker hmarker => h.2 marker (hsubset hmarker)⟩

/-- The first and the last line of a block. -/
def Block.bounds (block : Block) : Int × Int :=
  (block.first, block.last)

/-- The first and the last line of a range. -/
def FoldRange.bounds (range : FoldRange) : Int × Int :=
  (range.first, range.last)

namespace Classifier

/-- The wider classifier has the same gate, answers for every line for which the other one does,
and passes over no further lines. -/
structure Widens (wider classifier : Classifier) : Prop where
  depthGate_eq : wider.policy.depthGate = classifier.policy.depthGate
  depthThreshold_eq : wider.policy.depthThreshold = classifier.policy.depthThreshold
  commentMarkers_subset : wider.policy.commentMarkers ⊆ classifier.policy.commentMarkers
  answers : ∀ {scope line}, classifier.rules.Answers scope line → wider.rules.Answers scope line

namespace Widens

variable {classifier wider : Classifier} {document : Document} {block : Block}

theorem gateOpen (h : wider.Widens classifier) (hopen : classifier.GateOpen document block) :
    wider.GateOpen document block := by
  rcases hopen with hoff | hdeep | ⟨line, hheader, hlabel⟩
  · exact Or.inl (h.depthGate_eq.trans hoff)
  · exact Or.inr (Or.inl (h.depthThreshold_eq ▸ hdeep))
  · exact Or.inr (Or.inr ⟨line, hheader, h.answers hlabel⟩)

theorem speaks (h : wider.Widens classifier) {number : Nat} {line : Line}
    (hspeaks : classifier.Speaks document block number line) :
    wider.Speaks document block number line where
  line_eq := hspeaks.line_eq
  first_le := hspeaks.first_le
  le_last := hspeaks.le_last
  not_skippable := Document.isSkippable_of_subset h.commentMarkers_subset hspeaks.not_skippable
  indent_le := hspeaks.indent_le

theorem hasReason (h : wider.Widens classifier) (hreason : classifier.HasReason document block) :
    wider.HasReason document block := by
  rcases hreason with ⟨line, hheader, hguard⟩ | ⟨number, line, hspeaks, hcontent⟩
  · exact Or.inl ⟨line, hheader, h.answers hguard⟩
  · exact Or.inr ⟨number, line, h.speaks hspeaks, h.answers hcontent⟩

/-- A block that is accepted stays accepted. -/
theorem rangeFor?_isSome (h : wider.Widens classifier) (hblock : block ∈ document.blocks)
    (hsome : (classifier.rangeFor? document block).isSome = true) :
    (wider.rangeFor? document block).isSome = true := by
  rcases (rangeFor?_isSome_iff hblock).1 hsome with ⟨hopen, hreason⟩
  exact (rangeFor?_isSome_iff hblock).2 ⟨h.gateOpen hopen, h.hasReason hreason⟩

end Widens

/-- The lines of the ranges are those of the blocks that are accepted. -/
theorem foldRanges_map_bounds (classifier : Classifier) (document : Document) :
    (classifier.foldRanges document).map FoldRange.bounds =
      (document.blocks.filter fun block => (classifier.rangeFor? document block).isSome).map
        Block.bounds := by
  rw [foldRanges_eq_filterMap, List.map_filterMap, ← List.filterMap_eq_map, List.filterMap_filter]
  refine List.filterMap_congr ?_
  intro block _
  cases hverdict : classifier.verdict? document block <;>
    simp [rangeFor?, hverdict, FoldRange.bounds, Block.bounds, rangeOf]

/-- A wider classifier finds the same ranges and perhaps others between them. -/
theorem Widens.bounds_sublist {classifier wider : Classifier} (h : wider.Widens classifier)
    (document : Document) :
    ((classifier.foldRanges document).map FoldRange.bounds).Sublist
      ((wider.foldRanges document).map FoldRange.bounds) := by
  have hboth : (document.blocks.filter fun block =>
        (classifier.rangeFor? document block).isSome) =
      (document.blocks.filter fun block => (wider.rangeFor? document block).isSome).filter
        fun block => (classifier.rangeFor? document block).isSome := by
    rw [List.filter_filter]
    refine List.filter_congr ?_
    intro block hblock
    cases hsome : (classifier.rangeFor? document block).isSome with
    | false => rfl
    | true => rw [h.rangeFor?_isSome hblock hsome, Bool.and_true]
  rw [foldRanges_map_bounds, foldRanges_map_bounds, hboth]
  exact List.filter_sublist.map Block.bounds

/-! ## Further rules -/

variable {rules : RuleSet} {document : Document} {markers markers' : List Text}

/-- Further rules and fewer markers ask for no more. -/
theorem extended_widens (rules : RuleSet) (further : List Rule) (hmarkers : markers' ⊆ markers)
    (gate : Bool) (threshold : Int) :
    Widens ⟨rules.extended further, gate, threshold, markers'⟩
      ⟨rules, gate, threshold, markers⟩ where
  depthGate_eq := rfl
  depthThreshold_eq := rfl
  commentMarkers_subset := hmarkers
  answers := fun h => h.extended further

/-- A range whose header is a guard stays as it is under further rules. -/
theorem guarded_range_extended (further : List Rule) (hmarkers : markers' ⊆ markers)
    {gate : Bool} {threshold : Int} {range : FoldRange}
    (hrange : range ∈ foldRanges ⟨rules, gate, threshold, markers⟩ document)
    (hguarded : ∃ line, range.IsHeader document line ∧ rules.Answers .preceding line) :
    range ∈ foldRanges ⟨rules.extended further, gate, threshold, markers'⟩ document := by
  rw [foldRanges_eq_filterMap, List.mem_filterMap] at hrange ⊢
  rcases hrange with ⟨block, hblock, hrange⟩
  refine ⟨block, hblock, ?_⟩
  rcases (rangeFor?_eq_some_iff hblock).1 hrange with ⟨hopen, rule, number, hreason, rfl⟩
  refine (rangeFor?_eq_some_iff hblock).2
    ⟨(extended_widens rules further hmarkers gate threshold).gateOpen hopen, rule, number, ?_, rfl⟩
  cases hreason with
  | header hheader hearliest => exact .header hheader (hearliest.extended further)
  | content hnone _ _ _ =>
    rcases hguarded with ⟨line, hheader, hguard⟩
    exact absurd hguard (hnone line ((rangeOf_isHeader_iff document block _ line).1 hheader))

/--
Further rules, of whatever scopes, and fewer markers of comments only ever add ranges.  The first
and last lines of the ranges found under a rule set are, in order, among those found under every
extension of it and every part of its markers, whatever the gate.  A range whose header is matched
by a guard of the rule set stays as it is, with the same rule and family.  Where the rule set has a
match for a line, its extension has the same one.
-/
theorem extension_only_adds_ranges (rules : RuleSet) (further : List Rule)
    (markers markers' : List Text) (hmarkers : markers' ⊆ markers) :
    (∀ (gate : Bool) (threshold : Int) (document : Document),
      ((foldRanges ⟨rules, gate, threshold, markers⟩ document).map FoldRange.bounds).Sublist
        ((foldRanges ⟨rules.extended further, gate, threshold, markers'⟩ document).map
          FoldRange.bounds) ∧
      ∀ range ∈ foldRanges ⟨rules, gate, threshold, markers⟩ document,
        (∃ line, range.IsHeader document line ∧ rules.Answers .preceding line) →
          range ∈ foldRanges ⟨rules.extended further, gate, threshold, markers'⟩ document) ∧
    ∀ line scope rule, rules.firstMatch line scope = some rule →
      (rules.extended further).firstMatch line scope = some rule := by
  refine ⟨?_, ?_⟩
  · intro gate threshold document
    refine ⟨(extended_widens rules further hmarkers gate threshold).bounds_sublist document, ?_⟩
    intro range hrange hguarded
    exact guarded_range_extended further hmarkers hrange hguarded
  · intro line scope rule hrule
    rw [RuleSet.firstMatch_eq_some_iff] at hrule ⊢
    exact hrule.extended further

/-- Exceptions, reports and comments behind a number sign come in as further reasons: the guarded
block stays as it is, the returning one is now put down to its exception, and a third block is
found. -/
theorem extension_adds_commented_block :
    let rules : RuleSet := ⟨Builtin.conditionRules ++ [Builtin.exitRule "return"]⟩
    let further : List Rule := [Builtin.exitRule "throw", Builtin.reportRule]
    let document : Document :=
      ["if (p == NULL)".toList, "  return -1;".toList, "else".toList, "  throw p;".toList,
        "  return -2;".toList, "use(p);".toList, "  p = q;".toList,
        "  # print('error')".toList, "use(q);".toList]
    let narrow : Classifier := ⟨rules, false, 4, ["//".toList, "#".toList]⟩
    let wide : Classifier := ⟨rules.extended further, false, 4, ["//".toList]⟩
    ["//".toList] ⊆ ["//".toList, "#".toList] ∧
      narrow.foldRanges document =
        [⟨1, 1, some 0, "null_check", "guard"⟩, ⟨3, 4, some 2, "return", "keyword"⟩] ∧
      [(1, 1), (3, 4)].Sublist ((wide.foldRanges document).map FoldRange.bounds) ∧
      ⟨1, 1, some 0, "null_check", "guard"⟩ ∈ wide.foldRanges document ∧
      wide.foldRanges document ≠ narrow.foldRanges document := by
  intro rules further document narrow wide
  have hmarkers : ["//".toList] ⊆ ["//".toList, "#".toList] := by decide
  have hranges : narrow.foldRanges document =
      [⟨1, 1, some 0, "null_check", "guard"⟩, ⟨3, 4, some 2, "return", "keyword"⟩] := by
    decide +kernel
  obtain ⟨hsublist, hguarded⟩ :=
    (extension_only_adds_ranges rules further _ _ hmarkers).1 false 4 document
  have hheader : rules.Answers .preceding "if (p == NULL)".toList :=
    RuleSet.isSome_firstMatch_iff.1 (by decide +kernel)
  refine ⟨hmarkers, hranges, ?_, ?_, by decide +kernel⟩
  · rwa [show foldRanges _ document = _ from hranges] at hsublist
  · refine hguarded _ ?_ ⟨_, ⟨0, rfl, rfl⟩, hheader⟩
    rw [show foldRanges _ document = _ from hranges]
    exact List.mem_cons_self

end Classifier

/-! ## Rules in another order -/

/-- Where at most one element passes a test, it is found in every order of the elements. -/
theorem find?_eq_of_perm {α : Type} {test : α → Bool} {xs ys : List α} (hperm : xs.Perm ys)
    (hone : xs.Pairwise fun x y => ¬ (test x = true ∧ test y = true)) :
    xs.find? test = ys.find? test := by
  have hpassing := hperm.filter test
  have hnever : (xs.filter test).Pairwise fun _ _ => False := by
    refine (hone.filter test).imp_of_mem ?_
    intro x y hx hy hboth
    exact hboth ⟨(List.mem_filter.1 hx).2, (List.mem_filter.1 hy).2⟩
  rw [← List.head?_filter, ← List.head?_filter]
  match hlist : xs.filter test with
  | [] =>
    rw [hlist] at hpassing
    rw [hpassing.nil_eq]
  | [x] =>
    rw [hlist] at hpassing
    rw [List.singleton_perm.1 hpassing]
  | x :: y :: rest =>
    rw [hlist] at hnever
    exact (List.rel_of_pairwise_cons hnever List.mem_cons_self).elim

namespace RuleSet

variable {set set' : RuleSet} {scope : Scope} {line : Line}

/-- The order of the rules has no say in whether one of them answers. -/
theorem answers_iff_of_perm (h : set.rules.Perm set'.rules) :
    set.Answers scope line ↔ set'.Answers scope line := by
  simp only [Answers, h.mem_iff]

/-- All that the order of the rules can change is the rule of a verdict. -/
theorem seenAlike_line_of_perm (h : set.rules.Perm set'.rules) :
    SeenAlike Verdict.line set set' := by
  intro scope line
  have hsome : (set.firstMatch line scope).isSome = (set'.firstMatch line scope).isSome := by
    rw [Bool.eq_iff_iff, isSome_firstMatch_iff, isSome_firstMatch_iff, answers_iff_of_perm h]
  generalize set.firstMatch line scope = found at hsome ⊢
  generalize set'.firstMatch line scope = found' at hsome ⊢
  cases found <;> cases found'
  · exact .none
  · simp at hsome
  · simp at hsome
  · exact .some fun _ => rfl

/-- Rules of which at most one answers yes for a line may stand in any order among the others. -/
theorem firstMatch_of_perm_between (before after : List Rule) {rules rules' : List Rule}
    (hperm : rules.Perm rules')
    (hone : rules.Pairwise fun rule rule' =>
      ¬ (rule.accepts line = true ∧ rule'.accepts line = true)) (scope : Scope) :
    firstMatch ⟨before ++ rules ++ after⟩ line scope =
      firstMatch ⟨before ++ rules' ++ after⟩ line scope := by
  have hfind := find?_eq_of_perm (hperm.filter (·.scope == scope)) (hone.filter (·.scope == scope))
  simp only [firstMatch, inScope, List.filter_append, List.find?_append, hfind]

end RuleSet

namespace Builtin

/-- A keyword rule accepts only lines that begin with its keyword. -/
theorem prefix_of_accepts_exitRule {word : String} {line : Line}
    (h : (exitRule word).accepts line = true) : word.toList <+: Text.trim line := by
  simp only [exitRule, Rule.accepts, Rule.showsPattern, Bool.and_eq_true] at h
  exact List.isPrefixOf_iff_prefix.1 h.1

/-- No keyword is the beginning of another. -/
theorem exitWords_pairwise :
    exitWords.Pairwise fun word word' =>
      ¬ (word.toList <+: word'.toList ∨ word'.toList <+: word.toList) := by
  decide

/-- Of two keyword rules at most one accepts a line. -/
theorem exitRules_pairwise (line : Line) :
    (exitRules exitWords).Pairwise fun rule rule' =>
      ¬ (rule.accepts line = true ∧ rule'.accepts line = true) := by
  rw [exitRules, List.pairwise_map]
  refine exitWords_pairwise.imp ?_
  intro word word' hapart hboth
  exact hapart (List.prefix_or_prefix_of_prefix (prefix_of_accepts_exitRule hboth.1)
    (prefix_of_accepts_exitRule hboth.2))

end Builtin

namespace Classifier

variable {rules rules' : RuleSet}

/-- The line on which a block is accepted, if it is, without the rule that accepts it. -/
def acceptingLine (classifier : Classifier) (block : Block) (document : Document) :
    Except MissingLine (Option Int) :=
  (classifier.explain block document).map (Option.map Verdict.line)

/-- The gate asks only whether some rule labels the header. -/
theorem passesGate_of_isSome_eq
    (h : ∀ line, (rules.firstMatch line .gate).isSome = (rules'.firstMatch line .gate).isSome)
    (policy : Policy) (block : Block) (header : Option Line) :
    passesGate ⟨rules, policy⟩ block header = passesGate ⟨rules', policy⟩ block header := by
  simp only [passesGate, h]

theorem acceptingLine_of_perm (h : rules.rules.Perm rules'.rules) (policy : Policy)
    (block : Block) (document : Document) :
    acceptingLine ⟨rules, policy⟩ block document =
      acceptingLine ⟨rules', policy⟩ block document := by
  have hseen := RuleSet.seenAlike_line_of_perm h
  exact explain_map_eq rfl hseen (passesGate_of_isSome_eq (hseen.isSome_eq .gate) policy block _)

/-- Where the same rule answers for every line, every block is judged alike. -/
theorem explain_of_firstMatch_eq
    (h : ∀ line scope, rules.firstMatch line scope = rules'.firstMatch line scope)
    (policy : Policy) (block : Block) (document : Document) :
    explain ⟨rules, policy⟩ block document = explain ⟨rules', policy⟩ block document := by
  refine explain_eq rfl h (passesGate_of_isSome_eq ?_ policy block _)
  intro line
  rw [h]

/--
The order of the rules decides only which rule is named.  For every block and every document, a
judgement under rules in another order fails, rejects or accepts as before, and accepts on the same
line; if the rules of each scope keep their order among themselves, the verdicts are the same.  Of
the built-in keyword rules at most one accepts a line, so these may stand in any order among
themselves and every verdict stays the same.
-/
theorem rule_order_decides_attribution_only :
    (∀ rules rules' : RuleSet, rules.rules.Perm rules'.rules →
      ∀ (policy : Policy) (block : Block) (document : Document),
        acceptingLine ⟨rules, policy⟩ block document =
          acceptingLine ⟨rules', policy⟩ block document ∧
        ((∀ scope, rules.inScope scope = rules'.inScope scope) →
          explain ⟨rules, policy⟩ block document = explain ⟨rules', policy⟩ block document)) ∧
    (∀ line, (Builtin.exitRules Builtin.exitWords).Pairwise fun rule rule' =>
      ¬ (rule.accepts line = true ∧ rule'.accepts line = true)) ∧
    ∀ keywords : List Rule, keywords.Perm (Builtin.exitRules Builtin.exitWords) →
      ∀ (policy : Policy) (block : Block) (document : Document),
        explain ⟨⟨Builtin.conditionRules ++ [Builtin.labelRule] ++ keywords ++
            [Builtin.reportRule]⟩, policy⟩ block document =
          explain ⟨Builtin.ruleSet, policy⟩ block document := by
  refine ⟨?_, Builtin.exitRules_pairwise, ?_⟩
  · intro rules rules' hperm policy block document
    refine ⟨acceptingLine_of_perm hperm policy block document, ?_⟩
    intro hscopes
    refine explain_of_firstMatch_eq ?_ policy block document
    intro line scope
    rw [RuleSet.firstMatch, RuleSet.firstMatch, hscopes]
  · intro keywords hperm policy block document
    refine explain_of_firstMatch_eq ?_ policy block document
    intro line scope
    exact (RuleSet.firstMatch_of_perm_between _ _ hperm.symm (Builtin.exitRules_pairwise line)
      scope).symm

/-- A returned report of a failure is put down to its keyword or to the report, whichever rule comes
first, and to its line in both orders.  Labels in front and keywords in another order change
nothing. -/
theorem reversed_rules_accept_same_line :
    let document : Document :=
      ["if (x)".toList, "  return log.error('failed');".toList, "use(x);".toList]
    let block : Block := ⟨1, 1, 2⟩
    let reversed : RuleSet := ⟨Builtin.ruleSet.rules.reverse⟩
    let labelled : RuleSet :=
      ⟨[Builtin.labelRule] ++ Builtin.conditionRules ++ Builtin.exitRules Builtin.exitWords ++
        [Builtin.reportRule]⟩
    let named : Except MissingLine (Option Verdict) := .ok (some ⟨"return", "keyword", 1⟩)
    explain ⟨Builtin.ruleSet, {}⟩ block document = named ∧
      explain ⟨reversed, {}⟩ block document ≠ named ∧
      acceptingLine ⟨reversed, {}⟩ block document = .ok (some 1) ∧
      explain ⟨labelled, {}⟩ block document = named ∧
      explain ⟨⟨Builtin.conditionRules ++ [Builtin.labelRule] ++
        (Builtin.exitRules Builtin.exitWords).reverse ++ [Builtin.reportRule]⟩, {}⟩ block
          document = named := by
  intro document block reversed labelled named
  obtain ⟨hperm, -, hkeywords⟩ := rule_order_decides_attribution_only
  have hnamed : explain ⟨Builtin.ruleSet, {}⟩ block document = named := by decide +kernel
  have hreversed := hperm reversed Builtin.ruleSet (List.reverse_perm _) {} block document
  have hfront : labelled.rules.Perm Builtin.ruleSet.rules :=
    ((List.perm_append_comm.append_right _).append_right _)
  have hlabelled := hperm labelled Builtin.ruleSet hfront {} block document
  refine ⟨hnamed, by decide +kernel, ?_, (hlabelled.2 ?_).trans hnamed,
    (hkeywords _ (List.reverse_perm _) {} block document).trans hnamed⟩
  · rw [hreversed.1, acceptingLine, hnamed]
    rfl
  · intro scope
    cases scope <;> rfl

end Classifier
end BranchFold
