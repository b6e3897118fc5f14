import BranchFold.Rule.Builtin.Table
import BranchFold.Proofs.Literals
import BranchFold.Proofs.ReportNames

/-!
# Errors that calls speak of

The rule for reported failures looks for a call that prints or logs, or for an error stream, and
behind it for an error word in a text literal.  This module says without patterns where such a call
ends and where an error word stands, and shows what the two patterns of the rule find.

The literals are read from left to right.  On a line without backticks the pattern for calls finds
exactly the calls with an error word in a literal.  Where a backtick is escaped, the patterns take it
for the end of its literal, so they may find an error word that stands outside every literal.

Main definitions:

- {lit}`CallsReport`, {lit}`WritesToStream`: a call that prints or logs, an error stream that is
  written to, and what follows.
- {lit}`BeginsWithErrorWord`: a text that begins with a word that speaks of an error.
- {lit}`HasErrorInLiteral`, {lit}`HasErrorAtUnit`: an error word begins in a literal.

Main results:

- Theorem {lit}`Builtin.opens_errorInLiteral`: the pattern for an error word in a literal.
- Theorem {lit}`Builtin.reports_speak_of_errors_in_literals`: both patterns find an error word in a
  literal, or a literal in backticks with an escaped backtick.
- Theorem {lit}`Builtin.calls_with_errors_in_literals_found`: without backticks the pattern for calls
  is exact.
-/

namespace BranchFold

open Text Pattern

/-! ## Calls and streams -/

/-- In the text there stands the name of a call that prints or logs, as a name of its own and not as
a part of a longer one, with a parenthesis behind it; what follows the parenthesis is given. -/
def CallsReport (text arguments : Text) : Prop :=
  ∃ front name gap, text = front ++ name ++ gap ++ '(' :: arguments ∧
    (∀ c ∈ front.getLast?, isWord c = false ∧ c ≠ '.') ∧ NamesReport name ∧ AllBlank gap

theorem CallsReport.suffix {text arguments : Text} (h : CallsReport text arguments) :
    arguments <:+ text := by
  obtain ⟨front, name, gap, rfl, -⟩ := h
  exact ⟨front ++ name ++ gap ++ ['('], by simp⟩

/-- In the text there stands an error stream that is written to; what follows the operator is
given. -/
def WritesToStream (text items : Text) : Prop :=
  ∃ front name gap, text = front ++ name ++ gap ++ "<<".toList ++ items ∧
    endsInWord front = false ∧ (∃ stream ∈ streamNames, Spells stream name) ∧ AllBlank gap

theorem WritesToStream.suffix {text items : Text} (h : WritesToStream text items) :
    items <:+ text := by
  obtain ⟨front, name, gap, rfl, -⟩ := h
  exact List.suffix_append _ _

/-! ## Error words in literals -/

/-- The words that speak of an error wherever they stand. -/
def errorNames : List String :=
  ["error", "fail", "invalid", "cannot", "can't", "unable", "exception", "fatal", "abort", "panic"]

/-- The text begins with a word that speaks of an error, letters in either case; the short form
counts only where the word ends. -/
inductive BeginsWithErrorWord : Text → Prop where
  | name {name : String} {word back : Text} (hname : name ∈ errorNames) (hword : Spells name word) :
      BeginsWithErrorWord (word ++ back)
  | short {word back : Text} (hword : Spells "err" word) (hback : beginsInWord back = false) :
      BeginsWithErrorWord (word ++ back)

/-- Some error word begins inside a literal of the text. -/
def HasErrorInLiteral (text : Text) : Prop :=
  ∃ before rest, text = before ++ rest ∧ Quoting.outside.run before ≠ .outside ∧
    BeginsWithErrorWord rest

/-- Some error word begins inside a literal of the text, at a character that no backslash
escapes. -/
def HasErrorAtUnit (text : Text) : Prop :=
  ∃ before rest mark, text = before ++ rest ∧ Quoting.outside.run before = .inside mark ∧
    BeginsWithErrorWord rest

theorem HasErrorAtUnit.hasErrorInLiteral {text : Text} (h : HasErrorAtUnit text) :
    HasErrorInLiteral text := by
  obtain ⟨before, rest, mark, htext, hrun, hrest⟩ := h
  exact ⟨before, rest, htext, by rw [hrun]; simp, hrest⟩

theorem BeginsWithErrorWord.beginsInWord {text : Text} (h : BeginsWithErrorWord text) :
    Text.beginsInWord text = true := by
  have hnames : ∀ name ∈ "err" :: errorNames, Text.beginsInWord name.toList = true := by
    decide +kernel
  have hbegins : ∀ {name : String} {word back : Text}, name ∈ "err" :: errorNames →
      Spells name word → Text.beginsInWord (word ++ back) = true := by
    intro name word back hname hspells
    exact beginsInWord_append_left (hspells.beginsInWord (hnames name hname)) back
  cases h with
  | name hname hspells => exact hbegins (List.mem_cons_of_mem _ hname) hspells
  | short hspells _ => exact hbegins List.mem_cons_self hspells

/-- An error word in a literal begins at a place of the literal where a word begins. -/
theorem HasErrorInLiteral.exists_place {text : Text} (h : HasErrorInLiteral text) :
    ∃ n ≤ text.length, Quoting.outside.run (text.take n) ≠ .outside ∧
      Text.beginsInWord (text.drop n) = true := by
  obtain ⟨before, rest, rfl, hrun, hrest⟩ := h
  refine ⟨before.length, by simp, ?_, ?_⟩
  · rwa [List.take_left]
  · rw [List.drop_left]
    exact hrest.beginsInWord

namespace Builtin

variable {front word back text : Text}

/-! ## Error words -/

/-- The short error word and the edge behind it. -/
theorem opens_shortErrorWord :
    (inOrder [anyCase "err", edge]).Opens front text ↔
      ∃ word back, text = word ++ back ∧ Spells "err" word ∧ beginsInWord back = false := by
  have hends : ∀ word ∈ (anyCase "err").language, endsInWord word = true := by
    intro word hword
    exact endsInWord_of_isRun ((mem_language_anyCase.1 hword).isRun (by decide +kernel))
  rw [inOrder_cons_cons, inOrder_singleton, opens_edge_behind_iff rfl hends]
  simp only [mem_language_anyCase]

theorem opens_errorWord : errorWord.Opens front text ↔ BeginsWithErrorWord text := by
  have hword : errorWord = anyOf (anyCase "error" :: inOrder [anyCase "err", edge] ::
      errorNames.tail.map anyCase) := rfl
  have hnames : errorNames = "error" :: errorNames.tail := rfl
  have hopens : ∀ {name : String}, (anyCase name).Opens front text ↔
      ∃ word back, text = word ++ back ∧ Spells name word := by
    intro name
    simpa using (lists_anyCase name).opens_iff
  rw [hword, opens_anyOf]
  simp only [List.exists_mem_cons_iff, List.mem_map, exists_exists_and_eq_and, hopens,
    opens_shortErrorWord]
  constructor
  · rintro (⟨word, back, rfl, hspells⟩ | ⟨word, back, rfl, hspells, hback⟩ |
      ⟨name, hname, word, back, rfl, hspells⟩)
    · have herror : "error" ∈ errorNames := List.mem_cons_self
      exact .name herror hspells
    · exact .short hspells hback
    · exact .name (List.mem_of_mem_tail hname) hspells
  · intro h
    cases h with
    | @name name word back hname hspells =>
      rw [hnames] at hname
      rcases List.mem_cons.1 hname with rfl | htail
      · exact Or.inl ⟨word, back, rfl, hspells⟩
      · exact Or.inr (Or.inr ⟨name, htail, word, back, rfl, hspells⟩)
    | short hspells hback => exact Or.inr (Or.inl ⟨_, _, rfl, hspells, hback⟩)

/-- A literal from its quote to an error word in it. -/
theorem opens_errorIn {mark : Char} :
    (errorIn mark).Opens front text ↔
      ∃ units rest, text = mark :: (units ++ rest) ∧
        units ∈ (many (literalUnit mark)).language ∧ BeginsWithErrorWord rest := by
  simp only [errorIn, inOrder_cons_cons, inOrder_singleton]
  constructor
  · intro hopens
    obtain ⟨_, _, rfl, hmark, hopens⟩ := (opens_andThen_iff rfl).1 hopens
    obtain ⟨units, rest, rfl, hunits, hopens⟩ := (opens_andThen_iff rfl).1 hopens
    obtain rfl := mem_language_char.1 hmark
    exact ⟨units, rest, rfl, hunits, opens_errorWord.1 hopens⟩
  · rintro ⟨units, rest, rfl, hunits, hrest⟩
    refine (opens_andThen_iff rfl).2 ⟨[mark], _, rfl, mem_language_char.2 rfl, ?_⟩
    exact (opens_andThen_iff rfl).2 ⟨units, rest, rfl, hunits, opens_errorWord.2 hrest⟩

/-- The patterns cover the text up to an error word, as one that leads into a literal. -/
def LeadsToErrorWord (text : Text) : Prop :=
  ∃ before rest mark, text = before ++ rest ∧ Quoting.Covered (.inside mark) before ∧
    BeginsWithErrorWord rest

theorem opens_errorInLiteral : errorInLiteral.Opens front text ↔ LeadsToErrorWord text := by
  have hmarks : [errorIn '"', errorIn '\'', errorIn '\x60'] = quoteMarks.map errorIn := rfl
  rw [errorInLiteral, hmarks, inOrder_cons_cons, inOrder_singleton, opens_andThen_iff rfl]
  simp only [opens_anyOf, List.mem_map, exists_exists_and_eq_and, opens_errorIn]
  constructor
  · rintro ⟨passed, _, rfl, hpassed, mark, hmark, units, rest, rfl, hunits, hrest⟩
    exact ⟨passed ++ mark :: units, rest, mark, by simp, .inside hmark hpassed hunits, hrest⟩
  · rintro ⟨_, rest, mark, rfl, hcovered, hrest⟩
    cases hcovered with
    | @inside passed units _ hmark hpassed hunits =>
      exact ⟨passed, mark :: (units ++ rest), by simp, hpassed, mark, hmark, units, rest, rfl,
        hunits, hrest⟩

/-- The error word begins in a literal, unless a literal in backticks has an escaped backtick. -/
theorem LeadsToErrorWord.escapes_or_hasErrorAtUnit (h : LeadsToErrorWord text) :
    Quoting.EscapesBacktick text ∨ HasErrorAtUnit text := by
  obtain ⟨before, rest, mark, rfl, hcovered, hrest⟩ := h
  rcases hcovered.run_eq_or_escapes with hrun | hescape
  · exact Or.inr ⟨before, rest, mark, rfl, hrun, hrest⟩
  · exact Or.inl (hescape.append rest)

/-- Without backticks and line feeds the patterns lead to every error word in a literal. -/
theorem leadsToErrorWord_iff (hbacktick : '\x60' ∉ text) (hnewline : '\n' ∉ text) :
    LeadsToErrorWord text ↔ HasErrorAtUnit text := by
  unfold LeadsToErrorWord HasErrorAtUnit
  refine exists_congr fun before => exists_congr fun rest => exists_congr fun mark => ?_
  refine and_congr_right fun htext => and_congr_left fun _ => ?_
  subst htext
  simp only [List.mem_append, not_or] at hbacktick hnewline
  exact Quoting.covered_iff hbacktick.1 hnewline.1

/-! ## The two patterns of the rule -/

/-- The characters that may stand before the name of a call. -/
theorem holds_nameFront {c : Char} :
    (CharClass.complement (.union .word (.exactly '.'))).holds c = true ↔
      isWord c = false ∧ c ≠ '.' := by
  simp [CharClass.holds]

/-- The pattern for calls finds a call and, behind its parenthesis, an error word. -/
theorem occurs_reportedError :
    reportedError.Occurs text ↔
      ∃ arguments, CallsReport text arguments ∧ LeadsToErrorWord arguments := by
  have hcall : reportCall.isUnconditional = true := by decide +kernel
  simp only [reportedError, inOrder_cons_cons, inOrder_singleton]
  rw [occurs_behind]
  simp only [holds_nameFront]
  constructor
  · rintro ⟨front, _, rfl, hfront, hopens⟩
    obtain ⟨name, _, rfl, hname, hopens⟩ := (opens_andThen_iff hcall).1 hopens
    obtain ⟨gap, _, rfl, hgap, hopens⟩ := (opens_andThen_iff rfl).1 hopens
    obtain ⟨parenthesis, arguments, rfl, hparenthesis, hopens⟩ := (opens_andThen_iff rfl).1 hopens
    obtain rfl := mem_language_char.1 hparenthesis
    exact ⟨arguments, ⟨front, name, gap, by simp, hfront, mem_language_reportCall.1 hname,
      mem_language_blanks.1 hgap⟩, opens_errorInLiteral.1 hopens⟩
  · rintro ⟨arguments, ⟨front, name, gap, rfl, hfront, hname, hgap⟩, herror⟩
    refine ⟨front, name ++ (gap ++ '(' :: arguments), by simp, hfront, ?_⟩
    refine (opens_andThen_iff hcall).2 ⟨name, _, rfl, mem_language_reportCall.2 hname, ?_⟩
    refine (opens_andThen_iff rfl).2 ⟨gap, _, rfl, mem_language_blanks.2 hgap, ?_⟩
    exact (opens_andThen_iff rfl).2
      ⟨['('], arguments, rfl, mem_language_char.2 rfl, opens_errorInLiteral.2 herror⟩

/-- The pattern for streams finds a stream that is written to and, behind the operator, an error
word. -/
theorem occurs_streamedError :
    streamedError.Occurs text ↔
      ∃ items, WritesToStream text items ∧ LeadsToErrorWord items := by
  have hnames : ∀ stream ∈ streamNames, beginsInWord stream.toList = true := by decide +kernel
  have hbegins : ∀ {name rest : Text}, (∃ stream ∈ streamNames, Spells stream name) →
      beginsInWord (name ++ rest) = true := by
    rintro name rest ⟨stream, hstream, hspells⟩
    exact beginsInWord_append_left (hspells.beginsInWord (hnames stream hstream)) rest
  rw [streamedError, occurs_iff_opens]
  simp only [inOrder_cons_cons, inOrder_singleton]
  constructor
  · rintro ⟨front, _, rfl, hopens⟩
    obtain ⟨_, _, rfl, hedge, hopens⟩ := opens_andThen.1 hopens
    obtain ⟨space, _, rfl, hspace, hopens⟩ := (opens_andThen_iff rfl).1 hopens
    obtain ⟨object, _, rfl, hobject, hopens⟩ := (opens_andThen_iff rfl).1 hopens
    obtain ⟨gap, _, rfl, hgap, hopens⟩ := (opens_andThen_iff rfl).1 hopens
    obtain ⟨operator, items, rfl, hoperator, hopens⟩ := (opens_andThen_iff rfl).1 hopens
    obtain rfl := mem_language_literal.1 hoperator
    obtain ⟨rfl, hne⟩ := reads_edge.1 hedge
    have hname := lists_streams.mem_language_iff.1
      (mem_language_andThen.2 ⟨space, object, rfl, hspace, hobject⟩)
    rw [← List.append_assoc space, hbegins hname] at hne
    exact ⟨items, ⟨front, space ++ object, gap, by simp, by simpa using hne, hname,
      mem_language_blanks.1 hgap⟩, opens_errorInLiteral.1 hopens⟩
  · rintro ⟨items, ⟨front, name, gap, rfl, hfront, hname, hgap⟩, herror⟩
    have hne : endsInWord front ≠ beginsInWord (name ++ (gap ++ ("<<".toList ++ items))) := by
      rw [hfront, hbegins hname]
      decide
    obtain ⟨space, object, rfl, hspace, hobject⟩ :=
      mem_language_andThen.1 (lists_streams.mem_language_iff.2 hname)
    rw [List.append_assoc space] at hne
    refine ⟨front, space ++ (object ++ (gap ++ ("<<".toList ++ items))), by simp, ?_⟩
    refine opens_andThen.2 ⟨[], _, rfl, reads_edge.2 ⟨rfl, hne⟩, ?_⟩
    refine (opens_andThen_iff rfl).2 ⟨space, _, rfl, hspace, ?_⟩
    refine (opens_andThen_iff rfl).2 ⟨object, _, rfl, hobject, ?_⟩
    refine (opens_andThen_iff rfl).2 ⟨gap, _, rfl, mem_language_blanks.2 hgap, ?_⟩
    exact (opens_andThen_iff rfl).2
      ⟨"<<".toList, items, rfl, mem_language_literal.2 rfl, opens_errorInLiteral.2 herror⟩

/-- The pattern at the position in the rule for reported failures occurs in the trimmed line. -/
def findsReport (index : Nat) (line : Line) : Bool :=
  (pattern? "log_error" index).any (·.occursIn (trim line))

theorem findsReport_zero {line : Line} :
    findsReport 0 line = true ↔ reportedError.Occurs (trim line) := by
  have hpattern : pattern? "log_error" 0 = some reportedError := rfl
  simp [findsReport, hpattern, occursIn_iff]

theorem findsReport_one {line : Line} :
    findsReport 1 line = true ↔ streamedError.Occurs (trim line) := by
  have hpattern : pattern? "log_error" 1 = some streamedError := rfl
  simp [findsReport, hpattern, occursIn_iff]

/--
Each of the two patterns finds only lines with an error word in a literal, behind the parenthesis of
a call that prints or logs or behind the operator that writes to an error stream, and lines where
what follows there has a literal in backticks with an escaped backtick.
-/
theorem reports_speak_of_errors_in_literals (line : Line) :
    (findsReport 0 line = true → ∃ arguments, CallsReport (trim line) arguments ∧
      (Quoting.EscapesBacktick arguments ∨ HasErrorInLiteral arguments)) ∧
    (findsReport 1 line = true → ∃ items, WritesToStream (trim line) items ∧
      (Quoting.EscapesBacktick items ∨ HasErrorInLiteral items)) := by
  have hliteral : ∀ {rest}, LeadsToErrorWord rest →
      Quoting.EscapesBacktick rest ∨ HasErrorInLiteral rest := by
    intro rest herror
    exact herror.escapes_or_hasErrorAtUnit.imp_right HasErrorAtUnit.hasErrorInLiteral
  rw [findsReport_zero, findsReport_one, occurs_reportedError, occurs_streamedError]
  constructor
  · rintro ⟨arguments, hcall, herror⟩
    exact ⟨arguments, hcall, hliteral herror⟩
  · rintro ⟨items, hstream, herror⟩
    exact ⟨items, hstream, hliteral herror⟩

/-- A report behind a literal that speaks of no error, and a stream with quotes of two kinds: there
is no backtick, so the error word begins in a literal. -/
theorem reports_behind_other_literals :
    let call := "log.warn(\"it's\", 'failed')".toList
    let stream := "std::cerr << '\"' << \"Fatal\";".toList
    (∃ arguments, CallsReport (trim call) arguments ∧ HasErrorInLiteral arguments) ∧
      ∃ items, WritesToStream (trim stream) items ∧ HasErrorInLiteral items := by
  intro call stream
  have hsuffix : ∀ {line rest : Text}, rest <:+ trim line → '\x60' ∉ line →
      Quoting.EscapesBacktick rest ∨ HasErrorInLiteral rest → HasErrorInLiteral rest := by
    intro line rest hrest hbacktick herror
    refine herror.resolve_left fun hescape => hbacktick ?_
    exact trim_subset line (hrest.subset hescape.backtick_mem)
  constructor
  · obtain ⟨arguments, hcall, herror⟩ :=
      (reports_speak_of_errors_in_literals call).1 (by decide +kernel)
    exact ⟨arguments, hcall, hsuffix hcall.suffix (by decide +kernel) herror⟩
  · obtain ⟨items, hstream, herror⟩ :=
      (reports_speak_of_errors_in_literals stream).2 (by decide +kernel)
    exact ⟨items, hstream, hsuffix hstream.suffix (by decide +kernel) herror⟩

/-- A literal whose only character is an escaped backtick, and behind it a name: the pattern takes
the name for text of a literal. -/
theorem call_found_with_error_outside_literals :
    let line := "console.log(\x60\\\x60\x60 + error)".toList
    findsReport 0 line = true ∧
      ¬ ∃ arguments, CallsReport (trim line) arguments ∧ HasErrorInLiteral arguments := by
  intro line
  refine ⟨by decide +kernel, ?_⟩
  rintro ⟨arguments, ⟨front, name, gap, htext, -⟩, herror⟩
  -- there is one parenthesis only, so the arguments are what follows it
  have hsplit : "console.log".toList ++ '(' :: "\x60\\\x60\x60 + error)".toList =
      front ++ name ++ gap ++ '(' :: arguments := htext
  obtain ⟨-, -, rfl⟩ :=
    (List.append_cons_inj_of_notMem (by decide +kernel) (by decide +kernel)).1 hsplit
  obtain ⟨n, hn, hrun, hword⟩ := herror.exists_place
  have hnone : ∀ n ≤ "\x60\\\x60\x60 + error)".toList.length,
      Quoting.outside.run ("\x60\\\x60\x60 + error)".toList.take n) ≠ .outside →
        beginsInWord ("\x60\\\x60\x60 + error)".toList.drop n) = false := by
    decide +kernel
  rw [hnone n hn hrun] at hword
  cases hword

/--
On a line without backticks and line feeds the pattern for calls is exact: it finds the calls that
print or log with an error word in a literal behind the parenthesis, where the word begins at a
character that no backslash escapes.
-/
theorem calls_with_errors_in_literals_found (line : Line) (hbacktick : '\x60' ∉ line)
    (hnewline : '\n' ∉ line) :
    findsReport 0 line = true ↔
      ∃ arguments, CallsReport (trim line) arguments ∧ HasErrorAtUnit arguments := by
  rw [findsReport_zero, occurs_reportedError]
  refine exists_congr fun arguments => and_congr_right fun hcall => ?_
  have hline : arguments ⊆ line := List.Subset.trans hcall.suffix.subset (trim_subset line)
  exact leadsToErrorWord_iff (fun h => hbacktick (hline h)) fun h => hnewline (hline h)

/-- The word of a report that runs past the end of its literal, behind another literal. -/
theorem call_found_with_word_past_literal :
    let line := "  log.warn(\"say \\\"hi\\\"\", 'can't open')".toList
    '\x60' ∉ line ∧ '\n' ∉ line ∧ findsReport 0 line = true ∧
      ∃ arguments, CallsReport (trim line) arguments ∧ HasErrorAtUnit arguments := by
  intro line
  have hbacktick : '\x60' ∉ line := by decide +kernel
  have hnewline : '\n' ∉ line := by decide +kernel
  have hfound : findsReport 0 line = true := by decide +kernel
  exact ⟨hbacktick, hnewline, hfound,
    (calls_with_errors_in_literals_found line hbacktick hnewline).1 hfound⟩

end Builtin
end BranchFold
