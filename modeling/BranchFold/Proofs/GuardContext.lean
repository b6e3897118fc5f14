import BranchFold.Rule.Builtin.Guards
import BranchFold.Proofs.Languages

/-!
# Guards and the text around them

A guard needs a branch keyword, as a whole word and in lower case, so neither the head of a loop nor
a keyword in capitals is a guard by itself.  On the other hand nothing that stands around a guard on
its line hides it: a pattern that asks for no end of the text looks at most at the characters next
to the stretch that it covers, and blanks there are as good as the end of the text.

Main definitions:

- {lit}`Cursor.within`: a place of a text, in a longer text.
- {lit}`Pattern.isUnanchored`: no condition asks for the start or the end of the text.
- {lit}`Text.HasWholeWord`: the word stands in the text as a whole word.

Main results:

- Theorem {lit}`Pattern.Occurs.within`: a pattern without such conditions occurs in a longer text,
  too.
- Theorem {lit}`Text.exists_trim_in_context`: trimming a longer line keeps what trimming leaves of
  the line.
- Theorem {lit}`Builtin.guards_need_branch_word_and_survive_context`: both properties of the
  built-in guards.
-/

namespace BranchFold

open Text Pattern

/-! ## A text in a longer one -/

/-- The place in a longer text, with more in front and behind. -/
def Cursor.within (x : Cursor) (front back : Text) : Cursor :=
  ⟨x.before ++ front.reverse, x.after ++ back⟩

theorem Cursor.text_within (x : Cursor) (front back : Text) :
    (x.within front back).text = front ++ x.text ++ back := by
  simp [Cursor.text, Cursor.within]

namespace Pattern

/-- No condition asks for the start or the end of the text. -/
def isUnanchored : Pattern → Bool
  | nothing => true
  | never => true
  | one _ => true
  | place condition => condition == .wordEdge
  | andThen p q => p.isUnanchored && q.isUnanchored
  | either p q => p.isUnanchored && q.isUnanchored
  | many p => p.isUnanchored

variable {p q : Pattern} {front back text : Text}

/-- What follows a text does not matter to its beginning, unless the text is empty and a word
follows. -/
theorem wordAt_append (side : Text) {more : Text} (hmore : Cursor.wordAt more = false) :
    Cursor.wordAt (side ++ more) = Cursor.wordAt side := by
  cases side with
  | nil => exact hmore
  | cons c rest => rfl

/-- A word begins or ends at a place of the longer text exactly if it does so in the text. -/
theorem wordEdge_met_within (hfront : endsInWord front = false) (hback : beginsInWord back = false)
    (x : Cursor) : Condition.wordEdge.met (x.within front back) = Condition.wordEdge.met x := by
  rw [← wordAt_reverse] at hfront
  rw [← wordAt_eq_beginsInWord] at hback
  simp only [Condition.met, Cursor.within, wordAt_append _ hfront, wordAt_append _ hback]

/-- A stretch of the text is one of the longer text. -/
theorem Spans.within {x y : Cursor} (h : p.Spans x y) (hp : p.isUnanchored = true)
    (hfront : endsInWord front = false) (hback : beginsInWord back = false) :
    p.Spans (x.within front back) (y.within front back) := by
  -- only a condition looks beyond the stretch, and edges are the same in the longer text
  induction h with
  | nothing => exact .nothing _
  | one before after hholds => exact .one _ _ hholds
  | place hmet =>
    obtain rfl := beq_iff_eq.1 hp
    exact .place ((wordEdge_met_within hfront hback _).trans hmet)
  | andThen _ _ ihp ihq =>
    simp only [isUnanchored, Bool.and_eq_true] at hp
    exact .andThen (ihp hp.1) (ihq hp.2)
  | left _ ih =>
    simp only [isUnanchored, Bool.and_eq_true] at hp
    exact .left (ih hp.1)
  | right _ ih =>
    simp only [isUnanchored, Bool.and_eq_true] at hp
    exact .right (ih hp.2)
  | stop => exact .stop _
  | more _ _ ihp ihrest => exact .more (ihp hp) (ihrest hp)

/-- A pattern without conditions on the ends of the text occurs in the longer text, too. -/
theorem Occurs.within (h : p.Occurs text) (hp : p.isUnanchored = true)
    (hfront : endsInWord front = false) (hback : beginsInWord back = false) :
    p.Occurs (front ++ text ++ back) := by
  obtain ⟨x, y, rfl, hspans⟩ := h
  exact ⟨_, _, Cursor.text_within x front back, hspans.within hp hfront hback⟩

/-- The first part of a sequence occurs where the sequence does. -/
theorem Occurs.of_andThen (h : (andThen p q).Occurs text) : p.Occurs text := by
  obtain ⟨x, z, htext, hspans⟩ := h
  obtain ⟨y, hp, -⟩ := spans_andThen.1 hspans
  exact ⟨x, y, htext, hp⟩

end Pattern

namespace Text

/-- Between blanks in a longer line there stands what trimming leaves of the line, and no word
reaches into it. -/
theorem exists_trim_in_context {line : Line} (hne : trim line ≠ []) (before after : Text) :
    ∃ front back, trim (before ++ [' '] ++ line ++ [' '] ++ after) = front ++ trim line ++ back ∧
      endsInWord front = false ∧ beginsInWord back = false := by
  obtain ⟨lead, trail, hlead, htrail, hline⟩ := exists_blanks_around_trim line
  obtain ⟨hhead, hlast⟩ := isBlank_ends_trim hne
  have hspace : isBlank ' ' = true := rfl
  -- the spaces keep the words of the context away from the line
  have hfront : endsInWord (before ++ ([' '] ++ lead)) = false :=
    AllBlank.endsInWord_eq_false (List.forall_mem_cons.2 ⟨hspace, hlead⟩) (by simp) before
  have hback : beginsInWord (trail ++ ([' '] ++ after)) = false := htrail.beginsInWord_append rfl
  refine ⟨trimStart (before ++ ([' '] ++ lead)), trimEnd (trail ++ ([' '] ++ after)), ?_, ?_, ?_⟩
  · rw [← trim_append hne hhead hlast]
    conv_lhs => rw [hline]
    simp only [List.append_assoc]
  · exact endsInWord_of_suffix (List.dropWhile_suffix _) hfront
  · exact beginsInWord_of_prefix (List.rdropWhile_prefix isBlank _) hback

/-- The word stands in the text as a whole word. -/
def HasWholeWord (text word : Text) : Prop :=
  ∃ front back, text = front ++ word ++ back ∧ IsWholeWord front word back

end Text

/-! ## Branch keywords -/

namespace Builtin

variable {front word back text : Text}

/-- The keywords that open a branch. -/
def branchNames : List String :=
  ["if", "elif", "unless", "guard"]

theorem isRun_of_mem_branchNames : ∀ name ∈ branchNames, isRun name.toList = true := by
  decide +kernel

/-- The pattern for branch keywords covers them as whole words. -/
theorem reads_branchWord :
    branchWord.Reads front word back ↔
      (∃ name ∈ branchNames, word = name.toList) ∧ IsWholeWord front word back := by
  have hruns : ∀ word ∈ (literals branchNames).language, isRun word = true := by
    intro word hword
    obtain ⟨name, hname, rfl⟩ := mem_language_literals.1 hword
    exact isRun_of_mem_branchNames name hname
  have hbranch : branchWord = andThen edge (andThen (literals branchNames) edge) := rfl
  rw [hbranch, reads_wholeWord rfl hruns, mem_language_literals]

/-- A pattern that begins with a branch keyword asks for one in the text. -/
theorem exists_branchName_of_branchWord {rest : Pattern}
    (h : (andThen branchWord rest).Occurs text) :
    ∃ name ∈ branchNames, HasWholeWord text name.toList := by
  obtain ⟨front, _, back, rfl, hreads⟩ := occurs_iff.1 h.of_andThen
  obtain ⟨⟨name, hname, rfl⟩, hwhole⟩ := reads_branchWord.1 hreads
  exact ⟨name, hname, front, back, rfl, hwhole⟩

/-- A negated name has its keyword as a whole word, too: no edge is asked for behind it, but
blanks are. -/
theorem exists_branchName_of_negatedName (h : negatedName.Occurs text) :
    ∃ name ∈ branchNames, HasWholeWord text name.toList := by
  have hnames : ∀ name ∈ ["if", "elif"], name ∈ branchNames := by decide
  simp only [negatedName, inOrder_cons_cons] at h
  obtain ⟨front, _, rfl, hopens⟩ := occurs_iff_opens.1 h
  obtain ⟨_, _, rfl, hedge, hopens⟩ := opens_andThen.1 hopens
  obtain ⟨rfl, hne⟩ := reads_edge.1 hedge
  obtain ⟨_, _, rfl, hkeyword, hopens⟩ := (opens_andThen_iff rfl).1 hopens
  obtain ⟨gap, rest, rfl, hgap, -⟩ := (opens_andThen_iff rfl).1 hopens
  obtain ⟨name, hname, rfl⟩ := mem_language_literals.1 hkeyword
  obtain ⟨hgapNe, hblank⟩ := mem_language_oneOrMore_one.1 hgap
  have hrun := isRun_of_mem_branchNames name (hnames name hname)
  rw [beginsInWord_append (isRun_iff.1 hrun).1, beginsInWord_of_isRun hrun] at hne
  have hback : beginsInWord (gap ++ rest) = false := AllBlank.beginsInWord_eq_false hblank hgapNe rest
  exact ⟨name, hnames name hname, front, gap ++ rest, by simp, hrun, by simpa using hne, hback⟩

/-! ## The guards -/

/-- A built-in guard accepts a line when one of its patterns occurs in the trimmed line. -/
theorem guard_accepts_iff {rule : Rule} (hrule : rule ∈ conditionRules) {line : Line} :
    rule.accepts line = true ↔ ∃ p ∈ rule.patterns, p.Occurs (trim line) := by
  have hguard : rule = guardRule rule.name rule.patterns := by
    simp only [conditionRules, List.mem_cons, List.not_mem_nil, or_false] at hrule
    rcases hrule with rfl | rfl | rfl <;> rfl
  rw [hguard]
  exact Rule.accepts_pattern_iff

/-- The patterns of a guard begin with a branch keyword, but for the one for negated names. -/
theorem guard_pattern_cases {rule : Rule} (hrule : rule ∈ conditionRules) {p : Pattern}
    (hp : p ∈ rule.patterns) : (∃ rest, p = andThen branchWord rest) ∨ p = negatedName := by
  simp only [conditionRules, List.mem_cons, List.not_mem_nil, or_false] at hrule
  rcases hrule with rfl | rfl | rfl <;>
    simp only [guardRule, Rule.patterns, List.mem_cons, List.not_mem_nil, or_false] at hp
  · rcases hp with rfl | rfl | rfl <;> exact Or.inl ⟨_, rfl⟩
  · rcases hp with rfl | rfl <;> exact Or.inl ⟨_, rfl⟩
  · rcases hp with rfl | rfl | rfl | rfl | rfl | rfl
    case inr.inr.inr.inr.inr => exact Or.inr rfl
    all_goals exact Or.inl ⟨_, rfl⟩

theorem guard_patterns_unanchored {rule : Rule} (hrule : rule ∈ conditionRules) {p : Pattern}
    (hp : p ∈ rule.patterns) : p.isUnanchored = true := by
  have hall : conditionRules.all (·.patterns.all isUnanchored) = true := by decide +kernel
  exact List.all_eq_true.1 (List.all_eq_true.1 hall rule hrule) p hp

theorem exists_branchName_of_guard {rule : Rule} (hrule : rule ∈ conditionRules) {p : Pattern}
    (hp : p ∈ rule.patterns) (h : p.Occurs text) :
    ∃ name ∈ branchNames, HasWholeWord text name.toList := by
  rcases guard_pattern_cases hrule hp with ⟨rest, rfl⟩ | rfl
  · exact exists_branchName_of_branchWord h
  · exact exists_branchName_of_negatedName h

/--
There are three guards.  A line that one of them accepts has a branch keyword as a whole word, and
the guard accepts every longer line in which a space parts the line from what stands around it.
-/
theorem guards_need_branch_word_and_survive_context :
    conditionRules.map Rule.name = ["null_check", "threshold_check", "empty_check"] ∧
    ∀ rule ∈ conditionRules, ∀ line : Line, rule.accepts line = true →
      (∃ name ∈ ["if", "elif", "unless", "guard"], HasWholeWord (trim line) name.toList) ∧
      ∀ before after : Text, rule.accepts (before ++ [' '] ++ line ++ [' '] ++ after) = true := by
  refine ⟨rfl, ?_⟩
  intro rule hrule line haccepts
  obtain ⟨p, hp, hoccurs⟩ := (guard_accepts_iff hrule).1 haccepts
  have hkeyword := exists_branchName_of_guard hrule hp hoccurs
  refine ⟨hkeyword, ?_⟩
  intro before after
  have hne : trim line ≠ [] := by
    obtain ⟨name, -, front, back, htrim, hwhole⟩ := hkeyword
    rw [htrim]
    simp [hwhole.ne_nil]
  obtain ⟨front, back, htrim, hfront, hback⟩ := exists_trim_in_context hne before after
  rw [guard_accepts_iff hrule, htrim]
  exact ⟨p, hp, hoccurs.within (guard_patterns_unanchored hrule hp) hfront hback⟩

/-- A null check between the end of the branch before it and a comment. -/
theorem null_check_between_else_and_comment :
    let rule := guardRule "null_check" [comparedWithAbsent, absentCompared, negatedCondition]
    let line := "if (p == NULL)".toList
    rule ∈ conditionRules ∧ rule.accepts line = true ∧
      (∃ name ∈ ["if", "elif", "unless", "guard"], HasWholeWord (trim line) name.toList) ∧
      rule.accepts ("\x7d else".toList ++ [' '] ++ line ++ [' '] ++ "\x7b // retry".toList) = true := by
  intro rule line
  have hrule : rule ∈ conditionRules := List.mem_cons_self
  have haccepts : rule.accepts line = true := by decide +kernel
  obtain ⟨hkeyword, hcontext⟩ :=
    guards_need_branch_word_and_survive_context.2 rule hrule line haccepts
  exact ⟨hrule, haccepts, hkeyword, hcontext "\x7d else".toList "\x7b // retry".toList⟩

/-- Loops, keywords in capitals and longer words are no guards. -/
example : ["while (p == NULL)", "IF (p == NULL)", "iffy (p == NULL)", "for (; p != nil;)"].all
    (fun line => conditionRules.all fun rule => !rule.accepts line.toList) = true := by
  decide +kernel

end Builtin
end BranchFold
