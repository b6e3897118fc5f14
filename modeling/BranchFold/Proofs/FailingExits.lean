import BranchFold.Rule.Builtin.Exits
import BranchFold.Proofs.Languages

/-!
# Statements that leave with a failure

Each keyword rule accepts a language of its own.  The languages for exceptions, jumps and loop steps
are given here as grammars on the trimmed line, without reference to patterns or to the order in
which a search tries them, and each rule is shown to accept exactly its language.

Main definitions:

- {lit}`OpensWithKeyword`: the keyword of an exception.
- {lit}`JumpsToCleanup`: a jump to a label that names a failure or its clean-up.
- {lit}`StepsWithReason`: a loop step with a comment that names a failure.

Main results:

- Theorem {lit}`Builtin.occurs_statement`: a statement is its keyword and what its pattern asks for
  behind it.
- Theorem {lit}`Builtin.exit_rules_accept_failing_exits`: the rules for exceptions, jumps and loop
  steps.
-/

namespace BranchFold

open Text Pattern

/-! ## Exceptions, jumps and loop steps -/

/-- The text begins with the keyword, and no word character follows it. -/
def OpensWithKeyword (keyword : String) (text : Text) : Prop :=
  ∃ rest, text = keyword.toList ++ rest ∧ beginsInWord rest = false

/-- In the text there stands one of the names, letters in either case. -/
def Mentions (names : List String) (text : Text) : Prop :=
  ∃ name ∈ names, ∃ front part back, text = front ++ part ++ back ∧ Spells name part

/-- A jump: the keyword, blanks, and a whole word in which one of the names stands. -/
def JumpsToCleanup (names : List String) (text : Text) : Prop :=
  ∃ gap label rest, text = "goto".toList ++ gap ++ label ++ rest ∧ gap ≠ [] ∧ AllBlank gap ∧
    IsWholeWord ("goto".toList ++ gap) label rest ∧ Mentions names label

/-- A loop step: the keyword, a semicolon if any, and a comment that has one of the reasons on its
first line. -/
def StepsWithReason (keyword : String) (reasons : List String) (text : Text) : Prop :=
  ∃ gap semicolon gap' mark comment,
    text = keyword.toList ++ gap ++ semicolon ++ gap' ++ mark ++ comment ∧
      AllBlank gap ∧ (semicolon = [] ∨ semicolon = [';']) ∧ AllBlank gap' ∧
      (mark = "//".toList ∨ mark = "#".toList) ∧
      ∃ before reason after, comment = before ++ reason ++ after ∧ '\n' ∉ before ∧
        ∃ name ∈ reasons, Spells name reason

namespace Builtin

variable {front word back text : Text}

/-- A keyword rule asks only for its patterns: they begin with the keyword themselves. -/
theorem exitRule_accepts_iff {keyword : String} {patterns : List Pattern} {line : Line}
    (htable : exitTable.lookup keyword = some patterns)
    (hopens : ∀ p ∈ patterns, ∀ text, p.Occurs text → keyword.toList <+: text) :
    (exitRule keyword).accepts line = true ↔ ∃ p ∈ patterns, p.Occurs (Text.trim line) := by
  simp only [exitRule, htable, Option.getD_some, Rule.accepts, Rule.showsPattern, Rule.opening,
    Rule.patterns, Bool.and_eq_true, List.any_eq_true, occursIn_iff]
  constructor
  · rintro ⟨-, hpattern⟩
    exact hpattern
  · rintro ⟨p, hp, hoccurs⟩
    exact ⟨List.isPrefixOf_iff_prefix.2 (hopens p hp _ hoccurs), p, hp, hoccurs⟩

/-- A keyword stands at the start of the text and goes on in no word. -/
theorem reads_statementWord {keyword : String} (hkeyword : endsInWord keyword.toList = true) :
    (statementWord keyword).Reads front word back ↔
      front = [] ∧ word = keyword.toList ∧ beginsInWord back = false := by
  rw [statementWord, inOrder_cons_cons, inOrder_cons_cons, inOrder_singleton, reads_andThen]
  constructor
  · rintro ⟨_, v, rfl, hstart, hrest⟩
    obtain ⟨rfl, rfl⟩ := reads_textStart.1 hstart
    obtain ⟨hword, hback⟩ := (reads_literal_edge hkeyword).1 hrest
    exact ⟨rfl, hword, hback⟩
  · rintro ⟨rfl, hword, hback⟩
    exact ⟨[], word, rfl, reads_textStart.2 ⟨rfl, rfl⟩,
      (reads_literal_edge hkeyword).2 ⟨hword, hback⟩⟩

/-- A statement is its keyword and what the pattern asks for behind it. -/
theorem occurs_statement {keyword : String} {rest : Pattern}
    (hkeyword : endsInWord keyword.toList = true) :
    (andThen (statementWord keyword) rest).Occurs text ↔
      ∃ after, text = keyword.toList ++ after ∧ beginsInWord after = false ∧
        rest.Opens keyword.toList after := by
  rw [occurs_iff_opens]
  constructor
  · rintro ⟨front, text, rfl, hopens⟩
    obtain ⟨word, after, rfl, hword, hrest⟩ := opens_andThen.1 hopens
    obtain ⟨rfl, rfl, hafter⟩ := (reads_statementWord hkeyword).1 hword
    exact ⟨after, rfl, hafter, hrest⟩
  · rintro ⟨after, rfl, hafter, hrest⟩
    exact ⟨[], _, rfl, opens_andThen.2 ⟨_, after, rfl,
      (reads_statementWord hkeyword).2 ⟨rfl, rfl, hafter⟩, hrest⟩⟩

theorem occurs_statementWord {keyword : String} (hkeyword : endsInWord keyword.toList = true) :
    (statementWord keyword).Occurs text ↔ OpensWithKeyword keyword text := by
  rw [occurs_iff]
  constructor
  · rintro ⟨front, word, back, rfl, hword⟩
    obtain ⟨rfl, rfl, hback⟩ := (reads_statementWord hkeyword).1 hword
    exact ⟨back, rfl, hback⟩
  · rintro ⟨rest, rfl, hrest⟩
    exact ⟨[], _, rest, rfl, (reads_statementWord hkeyword).2 ⟨rfl, rfl, hrest⟩⟩

/-- The sign that opens a comment. -/
theorem mem_language_commentMark :
    word ∈ (either (literal "//") (char '#')).language ↔ word = "//".toList ∨ word = "#".toList := by
  rw [language, Language.mem_add, mem_language_literal, mem_language_char]
  rfl

/-- A loop step with a comment.  The edge behind the keyword holds of itself, as neither blanks nor
a semicolon nor a comment begin with a word character. -/
theorem occurs_explainedStep {keyword : String} {reasons : List String}
    (hkeyword : endsInWord keyword.toList = true) :
    (explainedStep keyword reasons).Occurs text ↔ StepsWithReason keyword reasons text := by
  rw [explainedStep, inOrder_cons_cons, occurs_statement hkeyword]
  simp only [inOrder_cons_cons, inOrder_singleton]
  constructor
  · rintro ⟨_, rfl, -, hopens⟩
    obtain ⟨gap, _, rfl, hgap, hopens⟩ := (opens_andThen_iff rfl).1 hopens
    obtain ⟨semicolon, _, rfl, hsemicolon, hopens⟩ := (opens_andThen_iff rfl).1 hopens
    obtain ⟨gap', _, rfl, hgap', hopens⟩ := (opens_andThen_iff rfl).1 hopens
    obtain ⟨mark, _, rfl, hmark, hopens⟩ := (opens_andThen_iff rfl).1 hopens
    obtain ⟨before, _, rfl, hbefore, hopens⟩ := (opens_andThen_iff rfl).1 hopens
    obtain ⟨reason, after, rfl, hreason⟩ := (opens_iff (isUnconditional_anyCases reasons)).1 hopens
    rw [mem_language_maybe, mem_language_char, or_comm] at hsemicolon
    exact ⟨gap, semicolon, gap', mark, before ++ reason ++ after, by simp,
      mem_language_blanks.1 hgap, hsemicolon, mem_language_blanks.1 hgap',
      mem_language_commentMark.1 hmark, before, reason, after, rfl,
      mem_language_anything.1 hbefore, mem_language_anyCases.1 hreason⟩
  · rintro ⟨gap, semicolon, gap', mark, _, rfl, hgap, hsemicolon, hgap', hmark, before, reason,
      after, rfl, hbefore, hreason⟩
    -- no word character follows the keyword: the first character behind it is a blank, the
    -- semicolon or the mark of the comment
    have hmarkEdge : beginsInWord (mark ++ (before ++ reason ++ after)) = false := by
      rcases hmark with rfl | rfl <;> rfl
    have hedge : beginsInWord (gap ++ (semicolon ++ (gap' ++ (mark ++ (before ++ reason ++ after)))))
        = false := by
      refine hgap.beginsInWord_append ?_
      rcases hsemicolon with rfl | rfl
      · exact hgap'.beginsInWord_append hmarkEdge
      · rfl
    refine ⟨_, by simp only [List.append_assoc], hedge, ?_⟩
    rw [or_comm, ← mem_language_char, ← mem_language_maybe] at hsemicolon
    refine (opens_andThen_iff rfl).2 ⟨gap, _, rfl, mem_language_blanks.2 hgap, ?_⟩
    refine (opens_andThen_iff rfl).2 ⟨semicolon, _, rfl, hsemicolon, ?_⟩
    refine (opens_andThen_iff rfl).2 ⟨gap', _, rfl, mem_language_blanks.2 hgap', ?_⟩
    refine (opens_andThen_iff rfl).2 ⟨mark, _, rfl, mem_language_commentMark.2 hmark, ?_⟩
    refine (opens_andThen_iff rfl).2
      ⟨before, reason ++ after, List.append_assoc .., mem_language_anything.2 hbefore, ?_⟩
    exact (opens_iff (isUnconditional_anyCases reasons)).2
      ⟨reason, after, rfl, mem_language_anyCases.2 hreason⟩

/-- The names of failures and of clean-up code to which a jump leads. -/
def cleanupNames : List String :=
  ["err", "fail", "out", "cleanup", "exit", "bail", "abort", "free", "unlock", "done"]

theorem isRun_of_mem_cleanupNames :
    ∀ name ∈ cleanupNames, isRun name.toList = true := by
  decide +kernel

/-- A jump.  The search may stop inside the label, which then goes on to its end. -/
theorem occurs_gotoCleanup : gotoCleanup.Occurs text ↔ JumpsToCleanup cleanupNames text := by
  rw [gotoCleanup, inOrder_cons_cons, occurs_textStart]
  simp only [inOrder_cons_cons, inOrder_singleton]
  constructor
  · intro hopens
    obtain ⟨keyword, _, rfl, hkeyword, hopens⟩ := (opens_andThen_iff rfl).1 hopens
    obtain ⟨gap, _, rfl, hgap, hopens⟩ := (opens_andThen_iff rfl).1 hopens
    obtain ⟨before, _, rfl, hbefore, hopens⟩ := (opens_andThen_iff rfl).1 hopens
    obtain ⟨part, _, rfl, hpart, hopens⟩ := (opens_andThen_iff rfl).1 hopens
    obtain ⟨after, rest, rfl, hafter, -⟩ := (opens_andThen_iff rfl).1 hopens
    obtain rfl := mem_language_literal.1 hkeyword
    obtain ⟨hne, hblank⟩ := mem_language_oneOrMore_one.1 hgap
    obtain ⟨name, hname, hspells⟩ := mem_language_anyCases.1 hpart
    -- what was covered behind the gap is a run of word characters, so a word begins with it
    have hpartRun := hspells.isRun (isRun_of_mem_cleanupNames name hname)
    have hrun : isRun (before ++ part ++ after) = true := by
      simp only [isRun_iff, List.forall_mem_append] at hpartRun ⊢
      exact ⟨by simp [hpartRun.1], ⟨mem_language_wordChars.1 hbefore, hpartRun.2⟩,
        mem_language_wordChars.1 hafter⟩
    have hedge : endsInWord ("goto".toList ++ gap) = false :=
      AllBlank.endsInWord_eq_false hblank hne _
    obtain ⟨more, rest, rfl, hlabel⟩ := IsWholeWord.exists_extension hrun hedge rest
    exact ⟨gap, before ++ part ++ after ++ more, rest, by simp, hne, hblank, hlabel,
      name, hname, before, part, after ++ more, by simp, hspells⟩
  · rintro ⟨gap, _, rest, rfl, hne, hgap, hlabel, name, hname, before, part, after, rfl, hspells⟩
    have hword := hlabel.isWord
    simp only [List.forall_mem_append] at hword
    simp only [List.append_assoc]
    refine (opens_andThen_iff rfl).2 ⟨"goto".toList, _, rfl, mem_language_literal.2 rfl, ?_⟩
    refine (opens_andThen_iff rfl).2 ⟨gap, _, rfl, mem_language_oneOrMore_one.2 ⟨hne, hgap⟩, ?_⟩
    refine (opens_andThen_iff rfl).2 ⟨before, _, rfl, mem_language_wordChars.2 hword.1.1, ?_⟩
    refine (opens_andThen_iff rfl).2
      ⟨part, _, rfl, mem_language_anyCases.2 ⟨name, hname, hspells⟩, ?_⟩
    refine (opens_andThen_iff rfl).2 ⟨after, _, rfl, mem_language_wordChars.2 hword.2, ?_⟩
    refine (opens_andThen_iff rfl).2 ⟨[], rest, rfl, mem_language_blanks.2 (by simp [AllBlank]), ?_⟩
    exact (opens_iff rfl).2 ⟨[], rest, rfl, mem_language_maybe.2 (Or.inr rfl)⟩

/-- The rule of a keyword with one pattern accepts the lines of the language of that pattern. -/
theorem exitRule_accepts_iff_of_single {keyword : String} {p : Pattern} {accepted : Text → Prop}
    (htable : exitTable.lookup keyword = some [p]) (hp : ∀ {text}, p.Occurs text ↔ accepted text)
    (hopens : ∀ {text}, accepted text → keyword.toList <+: text) (line : Line) :
    (exitRule keyword).accepts line = true ↔ accepted (Text.trim line) := by
  have hpattern : ∀ q ∈ [p], ∀ text, q.Occurs text → keyword.toList <+: text := by
    intro q hq text hoccurs
    obtain rfl := List.mem_singleton.1 hq
    exact hopens (hp.1 hoccurs)
  rw [exitRule_accepts_iff htable hpattern]
  simp [hp]

/--
The rules for exceptions, jumps and loop steps accept exactly the lines whose trimmed text has the
form that each of them is named for.
-/
theorem exit_rules_accept_failing_exits (line : Line) :
    ((exitRule "throw").accepts line = true ↔ OpensWithKeyword "throw" (Text.trim line)) ∧
    ((exitRule "raise").accepts line = true ↔ OpensWithKeyword "raise" (Text.trim line)) ∧
    ((exitRule "goto").accepts line = true ↔
      JumpsToCleanup ["err", "fail", "out", "cleanup", "exit", "bail", "abort", "free", "unlock",
        "done"] (Text.trim line)) ∧
    ((exitRule "break").accepts line = true ↔
      StepsWithReason "break" ["err", "fail", "invalid", "abort"] (Text.trim line)) ∧
    ((exitRule "continue").accepts line = true ↔
      StepsWithReason "continue" ["err", "fail", "invalid", "skip"] (Text.trim line)) := by
  have hword : ∀ keyword text, OpensWithKeyword keyword text → keyword.toList <+: text := by
    rintro keyword _ ⟨rest, rfl, -⟩
    exact List.prefix_append _ _
  have hstep : ∀ keyword reasons text, StepsWithReason keyword reasons text →
      keyword.toList <+: text := by
    rintro keyword reasons _ ⟨gap, semicolon, gap', mark, comment, rfl, -⟩
    simp only [List.append_assoc]
    exact List.prefix_append _ _
  refine ⟨?_, ?_, ?_, ?_, ?_⟩
  · exact exitRule_accepts_iff_of_single rfl (occurs_statementWord rfl) (hword _ _) line
  · exact exitRule_accepts_iff_of_single rfl (occurs_statementWord rfl) (hword _ _) line
  · refine exitRule_accepts_iff_of_single rfl occurs_gotoCleanup ?_ line
    rintro _ ⟨gap, label, rest, rfl, -⟩
    simp only [List.append_assoc]
    exact List.prefix_append _ _
  · exact exitRule_accepts_iff_of_single rfl (occurs_explainedStep rfl) (hstep _ _ _) line
  · exact exitRule_accepts_iff_of_single rfl (occurs_explainedStep rfl) (hstep _ _ _) line

end Builtin
end BranchFold
