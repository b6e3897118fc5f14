import BranchFold.Proofs.Evidence
import Mathlib.Data.List.Forall2
import Mathlib.Order.Monotone.Basic

/-!
# Changing the indentation of a document

Tabs may be turned into blanks and every indentation may be doubled: as long as deeper lines stay
deeper and lines at the margin stay there, the nesting is the same.  Every comparison of two
indentations gives the same answer before and after the change, and the rules trim the line
themselves, so the ranges stay the same as well.  The depth gate compares an indentation with a
fixed threshold and asks for a threshold that fits the new indentation.

Main definitions:

- {lit}`Reindented`: a line and the same line with other blanks around it.
- {lit}`Block.reindented`: a block under the new indentation.
- {lit}`Rule.ReadsTrimmed`: a rule that trims the line itself, as every rule with patterns does.

Main results:

- Theorem {lit}`Nesting.run_reindented`: the blocks that a run closes under the new indentation.
- Theorem {lit}`Classifier.reindentation_keeps_ranges`: blocks and ranges after the change.
-/

namespace BranchFold

/-- The second line is the first one with other blanks around it, and its indentation is given by
that of the first.  Nothing is asked of the indentation of blank lines. -/
structure Reindented (f : Nat → Nat) (line line' : Line) : Prop where
  trim_eq : Text.trim line = Text.trim line'
  indent_eq : Text.trim line ≠ [] → Text.indent line' = f (Text.indent line)

/-- The block under the new indentation. -/
def Block.reindented (f : Nat → Nat) (block : Block) : Block :=
  { block with indent := f block.indent.toNat }

variable {f : Nat → Nat} {line line' : Line}

/-! ## Lines without code -/

namespace Document

theorem isSkippable_of_trim_eq (markers : List Text) (h : Text.trim line = Text.trim line') :
    isSkippable markers line = isSkippable markers line' := by
  unfold isSkippable
  rw [h]

theorem trim_ne_nil_of_not_isSkippable {markers : List Text}
    (h : isSkippable markers line = false) : Text.trim line ≠ [] := by
  intro hnil
  simp [isSkippable, hnil] at h

end Document

/-! ## The nesting -/

namespace Nesting

/-- The state under the new indentation. -/
def reindented (f : Nat → Nat) (state : Nesting) : Nesting :=
  { state with level := f state.level }

/-- A line with code acts alike on the two states, since deeper lines stay deeper. -/
theorem enter_reindented (hf : StrictMono f) (state : Nesting) (number indent : Nat) :
    (state.reindented f).enter number (f indent) =
      ((state.enter number indent).1.reindented f,
        (state.enter number indent).2.map (Block.reindented f)) := by
  rcases state with ⟨level, opened⟩
  unfold enter reindented
  dsimp only
  by_cases hup : level < indent
  · have hup' : f level < f indent := hf hup
    simp [hup, hup']
  · have hup' : ¬ f level < f indent := fun hlt => hup (hf.lt_iff_lt.1 hlt)
    by_cases hdown : indent < level
    · have hdown' : f indent < f level := hf hdown
      cases opened with
      | nil => simp [hup, hup', hdown, hdown']
      | cons first outer => simp [hup, hup', hdown, hdown', Block.reindented]
    · have hdown' : ¬ f indent < f level := fun hlt => hdown (hf.lt_iff_lt.1 hlt)
      simp [hup, hup', hdown, hdown']

theorem step_reindented (hf : StrictMono f) (h : Reindented f line line') (state : Nesting)
    (number : Nat) :
    (state.reindented f).step number line' =
      ((state.step number line).1.reindented f,
        (state.step number line).2.map (Block.reindented f)) := by
  unfold step
  rw [← Document.isSkippable_of_trim_eq _ h.trim_eq]
  cases hskip : Document.isSkippable Document.codeMarkers line with
  | true => rfl
  | false =>
    have hindent := h.indent_eq (Document.trim_ne_nil_of_not_isSkippable hskip)
    simpa [hindent] using enter_reindented hf state number (Text.indent line)

theorem run_reindented (hf : StrictMono f) {lines lines' : Document}
    (h : List.Forall₂ (Reindented f) lines lines') (state : Nesting) (number : Nat) :
    ((state.reindented f).run number lines').1 =
      (state.run number lines).1.map (Block.reindented f) := by
  induction h generalizing state number with
  | nil => rfl
  | cons hline _ ih =>
    simp only [run, step_reindented hf hline, ih, List.map_append]
    cases (state.step number _).2 <;> rfl

end Nesting

/-- The blocks of a document under the new indentation. -/
theorem Document.blocks_reindented (hf : StrictMono f) (hzero : f 0 = 0)
    {document document' : Document} (h : List.Forall₂ (Reindented f) document document') :
    document'.blocks = document.blocks.map (Block.reindented f) := by
  have hroot : Nesting.root.reindented f = Nesting.root := by
    simp [Nesting.reindented, Nesting.root, hzero]
  have hrun := Nesting.run_reindented hf h Nesting.root 0
  rwa [hroot] at hrun

/-! ## The rules -/

/-- The rule trims the line itself: it answers alike for lines that differ only in the blanks around
them. -/
def Rule.ReadsTrimmed (rule : Rule) : Prop :=
  ∀ {line line' : Line}, Text.trim line = Text.trim line' → rule.accepts line = rule.accepts line'

/-- Every rule of the set trims the line itself. -/
def RuleSet.ReadsTrimmed (rules : RuleSet) : Prop :=
  ∀ rule ∈ rules.rules, rule.ReadsTrimmed

/-- The rule is a choice of patterns, possibly bound to a keyword, and no test of the host's own. -/
def Rule.usesPatterns : Rule → Bool
  | pattern _ _ _ _ => true
  | keyword _ _ => true
  | custom _ _ _ _ _ => false

/-- Rules with patterns trim the line themselves. -/
theorem Rule.readsTrimmed_of_usesPatterns {rule : Rule} (hrule : rule.usesPatterns = true) :
    rule.ReadsTrimmed := by
  intro line line' h
  cases rule with
  | pattern name category scope patterns => simp only [accepts, showsPattern, h]
  | keyword word patterns => simp only [accepts, showsPattern, h]
  | custom kind name category scope test => simp [usesPatterns] at hrule

/-- Every rule of a set of rules with patterns trims the line itself. -/
theorem RuleSet.readsTrimmed_of_usesPatterns {rules : RuleSet}
    (h : ∀ rule ∈ rules.rules, rule.usesPatterns = true) : rules.ReadsTrimmed :=
  fun rule hrule => Rule.readsTrimmed_of_usesPatterns (h rule hrule)

theorem RuleSet.firstMatch_of_trim_eq {rules : RuleSet} (hrules : rules.ReadsTrimmed)
    (scope : Scope) (h : Text.trim line = Text.trim line') :
    rules.firstMatch line scope = rules.firstMatch line' scope := by
  have haccepts : (rules.inScope scope).filter (·.accepts line) =
      (rules.inScope scope).filter (·.accepts line') := by
    refine List.filter_congr ?_
    intro rule hrule
    exact hrules rule (List.mem_filter.1 hrule).1 h
  rw [firstMatch, firstMatch, ← List.head?_filter, ← List.head?_filter, haccepts]

/-! ## The evidence -/

/-- What is asked of a line that may be missing, and depends on it only as far as the change of
indentation allows, gets the same answer. -/
theorem Reindented.bind_eq {α : Type} {ask ask' : Line → Option α}
    (hask : ∀ {line line'}, Reindented f line line' → ask' line' = ask line)
    {line? line'? : Option Line} (h : Option.Rel (Reindented f) line? line'?) :
    line'?.bind ask' = line?.bind ask := by
  cases h with
  | none => rfl
  | some hline => exact hask hline

/-- Lines of the same number correspond to each other. -/
theorem Document.getElem?_reindented {document document' : Document}
    (h : List.Forall₂ (Reindented f) document document') (number : Nat) :
    Option.Rel (Reindented f) document[number]? document'[number]? := by
  induction h generalizing number with
  | nil => exact .none
  | cons hline _ ih =>
    cases number with
    | zero => exact .some hline
    | succ number => simpa using ih number

namespace Classifier

variable {document document' : Document} {block : Block} {rules : RuleSet}

theorem precedingLine_reindented (h : List.Forall₂ (Reindented f) document document')
    (block : Block) :
    Option.Rel (Reindented f) (precedingLine block document)
      (precedingLine (block.reindented f) document') := by
  have hfirst : (block.reindented f).first = block.first := rfl
  unfold precedingLine
  rw [hfirst, ← h.length_eq]
  split_ifs
  · exact Document.getElem?_reindented h _
  · exact .none

theorem passesGate_reindented (hrules : rules.ReadsTrimmed)
    {header header' : Option Line} (hheader : Option.Rel (Reindented f) header header')
    {gate : Bool} {threshold threshold' : Int} (markers : List Text)
    (hgate : gate = true → (block.indent ≤ threshold ↔ (block.reindented f).indent ≤ threshold')) :
    passesGate ⟨rules, gate, threshold', markers⟩ (block.reindented f) header' =
      passesGate ⟨rules, gate, threshold, markers⟩ block header := by
  have hlabel : (header'.any fun line => (rules.firstMatch line .gate).isSome) =
      header.any fun line => (rules.firstMatch line .gate).isSome := by
    cases hheader with
    | none => rfl
    | some hline => simp [RuleSet.firstMatch_of_trim_eq hrules .gate hline.trim_eq]
  unfold passesGate
  dsimp only
  rw [hlabel]
  cases gate with
  | false => rfl
  | true =>
    have hdeep : threshold' < (block.reindented f).indent ↔ threshold < block.indent := by
      have hshallow := hgate rfl
      omega
    simp [hdeep]

/-- A line that is passed over for its depth is passed over under the new indentation, and only
such a line. -/
theorem contentRule_reindented (hf : StrictMono f) (hrules : rules.ReadsTrimmed)
    (h : Reindented f line line') (gate : Bool) (threshold threshold' : Int) (markers : List Text)
    (level : Nat) :
    contentRule ⟨rules, gate, threshold', markers⟩ (f level : Nat) line' =
      contentRule ⟨rules, gate, threshold, markers⟩ level line := by
  unfold contentRule
  dsimp only
  rw [← Document.isSkippable_of_trim_eq _ h.trim_eq]
  cases hskip : Document.isSkippable markers line with
  | true => rfl
  | false =>
    have hindent := h.indent_eq (Document.trim_ne_nil_of_not_isSkippable hskip)
    have hdeep : ((f level : Nat) : Int) < (Text.indent line' : Nat) ↔
        (level : Int) < (Text.indent line : Nat) := by
      rw [hindent, Int.ofNat_lt, Int.ofNat_lt]
      exact hf.lt_iff_lt
    simp only [hdeep, RuleSet.firstMatch_of_trim_eq hrules .content h.trim_eq]

theorem contentVerdicts_reindented (hf : StrictMono f) (hrules : rules.ReadsTrimmed)
    (h : List.Forall₂ (Reindented f) document document') (gate : Bool)
    (threshold threshold' : Int) (markers : List Text) (level : Nat) (numbers : List Nat) :
    contentVerdicts ⟨rules, gate, threshold', markers⟩ (f level : Nat) document' numbers =
      contentVerdicts ⟨rules, gate, threshold, markers⟩ level document numbers := by
  refine List.filterMap_congr ?_
  intro number _
  have hrule : contentRuleAt? ⟨rules, gate, threshold', markers⟩ (f level : Nat) document' number =
      contentRuleAt? ⟨rules, gate, threshold, markers⟩ level document number :=
    Reindented.bind_eq
      (fun hline => contentRule_reindented hf hrules hline gate threshold threshold' markers level)
      (Document.getElem?_reindented h number)
  rw [contentVerdictAt?, contentVerdictAt?, hrule]

/-! ## Verdicts and ranges -/

/-- A block of the document keeps its verdict. -/
theorem verdict?_reindented (hf : StrictMono f) (hrules : rules.ReadsTrimmed)
    (h : List.Forall₂ (Reindented f) document document') (hblock : block ∈ document.blocks)
    {gate : Bool} {threshold threshold' : Int} (markers : List Text)
    (hgate : gate = true → (block.indent ≤ threshold ↔ (block.reindented f).indent ≤ threshold')) :
    verdict? ⟨rules, gate, threshold', markers⟩ document' (block.reindented f) =
      verdict? ⟨rules, gate, threshold, markers⟩ document block := by
  have hwithin := Document.isWithin_of_mem_blocks hblock
  have hwithin' : (block.reindented f).IsWithin document' :=
    ⟨hwithin.first_nonneg, hwithin.first_le_last, h.length_eq ▸ hwithin.last_lt⟩
  have hheader := precedingLine_reindented h block
  obtain ⟨level, hlevel⟩ : ∃ level : Nat, block.indent = level := by
    rcases Document.mem_blocks_iff.1 hblock with ⟨_, _, -, rfl⟩
    exact ⟨_, rfl⟩
  have hindent : (block.reindented f).indent = (f level : Nat) := by
    rw [Block.reindented, hlevel, Int.toNat_natCast]
  have hnumbers : (block.reindented f).numbers = block.numbers := rfl
  have hcontent := contentVerdicts_reindented hf hrules h gate threshold threshold' markers level
    block.numbers
  rw [verdict?_eq_judge _ hwithin', verdict?_eq_judge _ hwithin, hindent, hnumbers, hcontent,
    ← hlevel]
  have hguard : (precedingLine (block.reindented f) document').bind
      (rules.firstMatch · .preceding) =
        (precedingLine block document).bind (rules.firstMatch · .preceding) :=
    Reindented.bind_eq
      (fun hline => (RuleSet.firstMatch_of_trim_eq hrules .preceding hline.trim_eq).symm) hheader
  unfold judge
  rw [passesGate_reindented hrules hheader markers hgate, hguard]
  rfl

/--
Changing the indentation of a document by a strictly increasing function that keeps the margin
changes nothing but the indentation of blocks.  Lines may have other blanks behind them, and blank
lines any blanks at all.  Under rules that trim the line themselves, such as all rules with
patterns, the ranges are the same, whatever the comment markers: with the gate off always, and with
the gate on if the new threshold separates the new indentations of the blocks as the old one did the
old.
-/
theorem reindentation_keeps_ranges (hf : StrictMono f) (hzero : f 0 = 0)
    (document document' : Document) (h : List.Forall₂ (Reindented f) document document') :
    document'.blocks = document.blocks.map (Block.reindented f) ∧
      ∀ rules : RuleSet, rules.ReadsTrimmed →
        ∀ (markers : List Text) (gate : Bool) (threshold threshold' : Int),
          (gate = true → ∀ block ∈ document.blocks,
            (block.indent ≤ threshold ↔ (block.reindented f).indent ≤ threshold')) →
          foldRanges ⟨rules, gate, threshold', markers⟩ document' =
            foldRanges ⟨rules, gate, threshold, markers⟩ document := by
  have hblocks := Document.blocks_reindented hf hzero h
  refine ⟨hblocks, ?_⟩
  intro rules hrules markers gate threshold threshold' hgate
  rw [foldRanges_eq_filterMap, foldRanges_eq_filterMap, hblocks, List.filterMap_map]
  refine List.filterMap_congr ?_
  intro block hblock
  have hverdict := verdict?_reindented hf hrules h hblock markers fun hon => hgate hon block hblock
  rw [Function.comp_apply, rangeFor?, rangeFor?, hverdict]
  rfl

/-- Blanks become tabs and every indentation is doubled, behind a gate that is doubled, too. -/
theorem doubled_indentation_keeps_range :
    let narrow : Document :=
      ["if (p == NULL)".toList, "  return -1;".toList, "".toList, "use(p);".toList]
    let wide : Document :=
      ["if (p == NULL)  ".toList, "\t\t\t\treturn -1;".toList, "   ".toList, "use(p);\t".toList]
    StrictMono (fun indent => 2 * indent) ∧ 2 * 0 = 0 ∧
      List.Forall₂ (Reindented (fun indent => 2 * indent)) narrow wide ∧
      wide.blocks = [⟨1, 2, 4⟩] ∧
      foldRanges ⟨Builtin.ruleSet, true, 2 * 1, Document.codeMarkers⟩ wide =
        [⟨1, 2, some 0, "null_check", "guard"⟩] := by
  intro narrow wide
  have hf : StrictMono fun indent : Nat => 2 * indent := by
    intro indent indent' hlt
    dsimp only
    omega
  have hlines : List.Forall₂ (Reindented (fun indent => 2 * indent)) narrow wide :=
    .cons ⟨by decide, by decide⟩ (.cons ⟨by decide, by decide⟩
      (.cons ⟨by decide, by decide⟩ (.cons ⟨by decide, by decide⟩ .nil)))
  obtain ⟨hblocks, hranges⟩ := reindentation_keeps_ranges hf rfl narrow wide hlines
  have hrules : Builtin.ruleSet.ReadsTrimmed := RuleSet.readsTrimmed_of_usesPatterns (by decide)
  have hkept := hranges Builtin.ruleSet hrules Document.codeMarkers true 1 (2 * 1) (by decide)
  exact ⟨hf, rfl, hlines, hblocks.trans (by decide), hkept.trans (by decide +kernel)⟩

end Classifier
end BranchFold
