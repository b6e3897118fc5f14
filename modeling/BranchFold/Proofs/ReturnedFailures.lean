import BranchFold.Proofs.FailingExits

/-!
# Return statements that report a failure

A return statement reports a failure by its value, which may stand in a parenthesis, or by a call
that builds one, anywhere on the first line of the statement.  This module gives the grammar of both
and shows that the rule for return statements accepts exactly the lines of that grammar.

Main definitions:

- {lit}`BeginsWithFailure`: a text that begins with a value that reports a failure.
- {lit}`ReturnsFailure`: a return statement with such a value or with a call that builds a failure.

Main results:

- Theorem {lit}`Builtin.exists_opens_failureValues_iff`: the patterns for values find exactly the
  values of the grammar.
- Theorem {lit}`Builtin.return_rule_accepts_returned_failures`: the rule for return statements.
-/

namespace BranchFold

open Text Pattern

/-! ## The grammar -/

/-- The characters of an error constant. -/
def constantChars : List Char :=
  "ABCDEFGHIJKLMNOPQRSTUVWXYZ0123456789_".toList

/-- The spellings of the truth value "false". -/
def falseSpellings : List String :=
  ["false", "False", "FALSE"]

/-- The name begins like that of an error, letters in either case. -/
def NamesError (name : Text) : Prop :=
  (∃ stem ∈ ["err", "fail", "invalid"], ∃ start more, name = start ++ more ∧ Spells stem start) ∨
    ∃ start more, name = start ++ more ∧ Spells "e_" start ∧ more ≠ []

/--
The text begins with a value that reports a failure.  Where no word character follows a run, the
run is the longest one.
-/
inductive BeginsWithFailure : Text → Prop where
  /-- A minus sign and a decimal digit. -/
  | negativeNumber {gap rest : Text} {digit : Char} (hgap : AllBlank gap)
      (hdigit : Text.isDigit digit = true) : BeginsWithFailure ('-' :: (gap ++ digit :: rest))
  /-- A minus sign and an error constant. -/
  | errorConstant {gap name rest : Text} (hgap : AllBlank gap) (hne : name ≠ [])
      (hname : ∀ c ∈ name, c ∈ constantChars) (hrest : beginsInWord rest = false) :
      BeginsWithFailure ('-' :: (gap ++ 'E' :: (name ++ rest)))
  /-- The truth value "false". -/
  | falseValue {spelling : String} {rest : Text} (hspelling : spelling ∈ falseSpellings)
      (hrest : beginsInWord rest = false) : BeginsWithFailure (spelling.toList ++ rest)
  /-- The absent value. -/
  | absentValue {name rest : Text} (hname : NamesAbsent name) (hrest : beginsInWord rest = false) :
      BeginsWithFailure (name ++ rest)
  /-- The name of an error behind the names of what it belongs to. -/
  | errorName {components : List Text} {name rest : Text}
      (hcomponents : ∀ component ∈ components, ∃ run, isRun run = true ∧ component = run ++ ['.'])
      (hname : NamesError name) (hrun : isRun name = true) (hrest : beginsInWord rest = false) :
      BeginsWithFailure (components.flatten ++ (name ++ rest))

/-- The name of a function that builds a failure: one that ends like the name of an exception, or
one of three names. -/
def BuildsFailure (name : Text) : Prop :=
  (∃ ending ∈ ["Error", "Exception"], ending.toList <:+ name) ∨
    ∃ whole ∈ ["Err", "Failure", "reject"], name = whole.toList

/-- The rest of a return statement is a value that reports a failure; one parenthesis may stand
before it. -/
def ReturnsFailureValue (rest : Text) : Prop :=
  ∃ gap parenthesis gap' value, rest = gap ++ parenthesis ++ gap' ++ value ∧
    AllBlank gap ∧ (parenthesis = [] ∨ parenthesis = ['(']) ∧ AllBlank gap' ∧
    BeginsWithFailure value

/-- On its first line the rest of a return statement has a call that builds a failure. -/
def ReturnsFailureCall (rest : Text) : Prop :=
  ∃ before name gap after, rest = before ++ name ++ (gap ++ '(' :: after) ∧ '\n' ∉ before ∧
    IsWholeWord before name (gap ++ '(' :: after) ∧ BuildsFailure name ∧ AllBlank gap

/-- A return statement that reports a failure. -/
def ReturnsFailure (text : Text) : Prop :=
  ∃ rest, text = "return".toList ++ rest ∧ beginsInWord rest = false ∧
    (ReturnsFailureValue rest ∨ ReturnsFailureCall rest)

namespace Builtin

variable {front word text : Text}

/-! ## Values -/

theorem opens_negativeNumber :
    negativeNumber.Opens front text ↔
      ∃ gap digit rest, text = '-' :: (gap ++ digit :: rest) ∧ AllBlank gap ∧
        Text.isDigit digit = true := by
  simp only [negativeNumber, digits, inOrder_cons_cons, inOrder_singleton]
  constructor
  · intro hopens
    obtain ⟨sign, _, rfl, hsign, hopens⟩ := (opens_andThen_iff rfl).1 hopens
    obtain ⟨gap, _, rfl, hgap, hopens⟩ := (opens_andThen_iff rfl).1 hopens
    obtain ⟨number, rest, rfl, hnumber⟩ := (opens_iff rfl).1 hopens
    obtain rfl := mem_language_char.1 hsign
    obtain ⟨hne, hdigits⟩ := mem_language_oneOrMore_one.1 hnumber
    obtain ⟨digit, more, rfl⟩ := List.exists_cons_of_ne_nil hne
    exact ⟨gap, digit, more ++ rest, by simp, mem_language_blanks.1 hgap,
      hdigits digit List.mem_cons_self⟩
  · rintro ⟨gap, digit, rest, rfl, hgap, hdigit⟩
    refine (opens_andThen_iff rfl).2 ⟨['-'], _, rfl, mem_language_char.2 rfl, ?_⟩
    refine (opens_andThen_iff rfl).2 ⟨gap, _, rfl, mem_language_blanks.2 hgap, ?_⟩
    exact (opens_iff rfl).2
      ⟨[digit], rest, rfl, mem_language_oneOrMore_one.2 ⟨by simp, List.forall_mem_singleton.2 hdigit⟩⟩

/-- The characters of an error constant, as a class of the pattern. -/
theorem holds_constantClass {c : Char} :
    (CharClass.union .asciiCapital (.union .asciiDigit (.exactly '_'))).holds c = true ↔
      c ∈ constantChars := by
  have hchars : constantChars = "ABCDEFGHIJKLMNOPQRSTUVWXYZ".toList ++
      ("0123456789".toList ++ ['_']) := by decide +kernel
  rw [hchars, List.mem_append, List.mem_append, List.mem_singleton]
  simp only [CharClass.holds_union, CharClass.asciiCapital, CharClass.asciiDigit,
    CharClass.holds_among, CharClass.holds_exactly]

theorem isWord_of_mem_constantChars {c : Char} (h : c ∈ constantChars) : isWord c = true := by
  have hall : constantChars.all isWord = true := by decide +kernel
  exact List.all_eq_true.1 hall c h

theorem opens_negativeErrorConstant :
    negativeErrorConstant.Opens front text ↔
      ∃ gap name rest, text = '-' :: (gap ++ 'E' :: (name ++ rest)) ∧ AllBlank gap ∧ name ≠ [] ∧
        (∀ c ∈ name, c ∈ constantChars) ∧ beginsInWord rest = false := by
  simp only [negativeErrorConstant, inOrder_cons_cons, inOrder_singleton]
  have hname : ∀ {name : Text}, name ∈ (oneOrMore (one (.union .asciiCapital
      (.union .asciiDigit (.exactly '_'))))).language ↔
        name ≠ [] ∧ ∀ c ∈ name, c ∈ constantChars := by
    intro name
    simp only [mem_language_oneOrMore_one, holds_constantClass]
  have hends : ∀ name ∈ (oneOrMore (one (.union .asciiCapital
      (.union .asciiDigit (.exactly '_'))))).language, endsInWord name = true := by
    intro name hmem
    obtain ⟨hne, hchars⟩ := hname.1 hmem
    exact endsInWord_of_isRun
      (isRun_iff.2 ⟨hne, fun c hc => isWord_of_mem_constantChars (hchars c hc)⟩)
  constructor
  · intro hopens
    obtain ⟨sign, _, rfl, hsign, hopens⟩ := (opens_andThen_iff rfl).1 hopens
    obtain ⟨gap, _, rfl, hgap, hopens⟩ := (opens_andThen_iff rfl).1 hopens
    obtain ⟨capital, _, rfl, hcapital, hopens⟩ := (opens_andThen_iff rfl).1 hopens
    obtain ⟨name, rest, rfl, hmem, hrest⟩ := (opens_edge_behind_iff rfl hends).1 hopens
    obtain rfl := mem_language_char.1 hsign
    obtain rfl := mem_language_char.1 hcapital
    obtain ⟨hne, hchars⟩ := hname.1 hmem
    exact ⟨gap, name, rest, by simp, mem_language_blanks.1 hgap, hne, hchars, hrest⟩
  · rintro ⟨gap, name, rest, rfl, hgap, hne, hchars, hrest⟩
    refine (opens_andThen_iff rfl).2 ⟨['-'], _, rfl, mem_language_char.2 rfl, ?_⟩
    refine (opens_andThen_iff rfl).2 ⟨gap, _, rfl, mem_language_blanks.2 hgap, ?_⟩
    refine (opens_andThen_iff rfl).2 ⟨['E'], _, rfl, mem_language_char.2 rfl, ?_⟩
    exact (opens_edge_behind_iff rfl hends).2 ⟨name, rest, rfl, hname.2 ⟨hne, hchars⟩, hrest⟩

theorem opens_falseValue :
    falseValue.Opens front text ↔
      ∃ spelling ∈ falseSpellings, ∃ rest, text = spelling.toList ++ rest ∧
        beginsInWord rest = false := by
  have hends : ∀ word ∈ (literals falseSpellings).language, endsInWord word = true := by
    have hspellings : ∀ spelling ∈ falseSpellings, endsInWord spelling.toList = true := by
      decide +kernel
    intro word hword
    obtain ⟨spelling, hspelling, rfl⟩ := mem_language_literals.1 hword
    exact hspellings spelling hspelling
  have hvalue : falseValue = andThen (literals falseSpellings) edge := rfl
  rw [hvalue, opens_edge_behind_iff rfl hends]
  constructor
  · rintro ⟨_, rest, rfl, hword, hrest⟩
    obtain ⟨spelling, hspelling, rfl⟩ := mem_language_literals.1 hword
    exact ⟨spelling, hspelling, rest, rfl, hrest⟩
  · rintro ⟨spelling, hspelling, rest, rfl, hrest⟩
    exact ⟨_, rest, rfl, mem_language_literals.2 ⟨spelling, hspelling, rfl⟩, hrest⟩

theorem mem_language_stem {stem : String} :
    word ∈ (inOrder [anyCase stem, wordChars]).language ↔
      ∃ start more, word = start ++ more ∧ Spells stem start ∧ ∀ c ∈ more, isWord c = true := by
  simp only [inOrder_cons_cons, inOrder_singleton, mem_language_andThen, mem_language_anyCase,
    mem_language_wordChars]

theorem mem_language_errorName_iff :
    word ∈ errorName.language ↔
      (∃ stem ∈ ["err", "fail", "invalid"],
        word ∈ (inOrder [anyCase stem, wordChars]).language) ∨
        word ∈ (inOrder [anyCase "e_", oneOrMore wordChar]).language := by
  simp only [errorName, mem_language_anyOf, List.mem_cons, List.not_mem_nil, or_false,
    exists_eq_or_imp, exists_eq_left]
  tauto

/-- The pattern for names of errors covers the runs that begin like one. -/
theorem mem_language_errorName :
    word ∈ errorName.language ↔ NamesError word ∧ isRun word = true := by
  have hstems : ∀ stem ∈ ["err", "fail", "invalid"], isRun stem.toList = true := by
    decide +kernel
  have hunderscore : word ∈ (inOrder [anyCase "e_", oneOrMore wordChar]).language ↔
      ∃ start more, word = start ++ more ∧ Spells "e_" start ∧ more ≠ [] ∧
        ∀ c ∈ more, isWord c = true := by
    simp only [inOrder_cons_cons, inOrder_singleton, mem_language_andThen, mem_language_anyCase,
      wordChar, mem_language_oneOrMore_one, CharClass.holds]
  rw [mem_language_errorName_iff, hunderscore]
  simp only [mem_language_stem]
  constructor
  · rintro (⟨stem, hstem, start, more, rfl, hspells, hmore⟩ | ⟨start, more, rfl, hspells, hne, hmore⟩)
    · exact ⟨Or.inl ⟨stem, hstem, start, more, rfl, hspells⟩,
        isRun_append_left (hspells.isRun (hstems stem hstem)) hmore⟩
    · exact ⟨Or.inr ⟨start, more, rfl, hspells, hne⟩,
        isRun_append_left (hspells.isRun (by decide +kernel)) hmore⟩
  · rintro ⟨⟨stem, hstem, start, more, rfl, hspells⟩ | ⟨start, more, rfl, hspells, hne⟩, hrun⟩
    · exact Or.inl ⟨stem, hstem, start, more, rfl, hspells,
        (List.forall_mem_append.1 (isRun_iff.1 hrun).2).2⟩
    · exact Or.inr ⟨start, more, rfl, hspells, hne,
        (List.forall_mem_append.1 (isRun_iff.1 hrun).2).2⟩

/-- A component of a qualified name is a run with a dot behind it. -/
theorem mem_language_component :
    word ∈ (inOrder [oneOrMore wordChar, char '.']).language ↔
      ∃ run, isRun run = true ∧ word = run ++ ['.'] := by
  simp only [inOrder_cons_cons, inOrder_singleton, mem_language_andThen, wordChar,
    mem_language_oneOrMore_one, mem_language_char, isRun_iff, CharClass.holds]
  constructor
  · rintro ⟨run, _, rfl, hrun, rfl⟩
    exact ⟨run, hrun, rfl⟩
  · rintro ⟨run, hrun, rfl⟩
    exact ⟨run, ['.'], rfl, hrun, rfl⟩

theorem opens_qualifiedErrorName :
    qualifiedErrorName.Opens front text ↔
      ∃ (components : List Text) (name rest : Text), text = components.flatten ++ (name ++ rest) ∧
        (∀ component ∈ components, ∃ run, isRun run = true ∧ component = run ++ ['.']) ∧
        NamesError name ∧ isRun name = true ∧ beginsInWord rest = false := by
  have hends : ∀ word ∈ errorName.language, endsInWord word = true := fun word hword =>
    endsInWord_of_isRun (mem_language_errorName.1 hword).2
  rw [qualifiedErrorName, inOrder_cons_cons, opens_andThen_iff rfl]
  constructor
  · rintro ⟨_, _, rfl, hqualifier, hopens⟩
    obtain ⟨components, rfl, hcomponents⟩ := Language.mem_kstar.1 hqualifier
    obtain ⟨name, rest, rfl, hname, hrest⟩ := (opens_edge_behind_iff rfl hends).1 hopens
    obtain ⟨herror, hrun⟩ := mem_language_errorName.1 hname
    exact ⟨components, name, rest, rfl,
      fun component hmem => mem_language_component.1 (hcomponents component hmem), herror, hrun,
      hrest⟩
  · rintro ⟨components, name, rest, rfl, hcomponents, herror, hrun, hrest⟩
    refine ⟨components.flatten, name ++ rest, rfl, Language.mem_kstar.2 ⟨components, rfl, ?_⟩, ?_⟩
    · exact fun component hmem => mem_language_component.2 (hcomponents component hmem)
    · exact (opens_edge_behind_iff rfl hends).2
        ⟨name, rest, rfl, mem_language_errorName.2 ⟨herror, hrun⟩, hrest⟩

/-- The shapes of a value that reports a failure. -/
def failureValues : List Pattern :=
  [negativeNumber, negativeErrorConstant, falseValue, inOrder [absentValue, edge],
    qualifiedErrorName]

/-- One of the patterns for values opens a text exactly if the text begins with a value that
reports a failure. -/
theorem exists_opens_failureValues_iff :
    (∃ value ∈ failureValues, value.Opens front text) ↔ BeginsWithFailure text := by
  simp only [failureValues, List.mem_cons, List.not_mem_nil, or_false, exists_eq_or_imp,
    exists_eq_left, opens_negativeNumber, opens_negativeErrorConstant, opens_falseValue,
    opens_absentValue_edge, opens_qualifiedErrorName]
  constructor
  · rintro (⟨gap, digit, rest, rfl, hgap, hdigit⟩ | ⟨gap, name, rest, rfl, hgap, hne, hname, hrest⟩ |
      ⟨spelling, hspelling, rest, rfl, hrest⟩ | ⟨name, rest, rfl, hname, hrest⟩ |
      ⟨components, name, rest, rfl, hcomponents, hname, hrun, hrest⟩)
    · exact .negativeNumber hgap hdigit
    · exact .errorConstant hgap hne hname hrest
    · exact .falseValue hspelling hrest
    · exact .absentValue hname hrest
    · exact .errorName hcomponents hname hrun hrest
  · intro h
    cases h with
    | negativeNumber hgap hdigit => exact Or.inl ⟨_, _, _, rfl, hgap, hdigit⟩
    | errorConstant hgap hne hname hrest =>
      exact Or.inr (Or.inl ⟨_, _, _, rfl, hgap, hne, hname, hrest⟩)
    | falseValue hspelling hrest => exact Or.inr (Or.inr (Or.inl ⟨_, hspelling, _, rfl, hrest⟩))
    | absentValue hname hrest => exact Or.inr (Or.inr (Or.inr (Or.inl ⟨_, _, rfl, hname, hrest⟩)))
    | errorName hcomponents hname hrun hrest =>
      exact Or.inr (Or.inr (Or.inr (Or.inr ⟨_, _, _, rfl, hcomponents, hname, hrun, hrest⟩)))

/-! ## Statements -/

/-- A return statement with a value of the given shape. -/
theorem occurs_returning {value : Pattern} :
    (returning value).Occurs text ↔
      ∃ rest, text = "return".toList ++ rest ∧ beginsInWord rest = false ∧
        ∃ gap parenthesis gap' after, rest = gap ++ parenthesis ++ gap' ++ after ∧
          AllBlank gap ∧ (parenthesis = [] ∨ parenthesis = ['(']) ∧ AllBlank gap' ∧
          value.Opens ("return".toList ++ gap ++ parenthesis ++ gap') after := by
  have hreturn : returning value = andThen (statementWord "return")
      (inOrder [blanks, maybe (char '('), blanks, value]) := rfl
  rw [hreturn, occurs_statement rfl]
  simp only [inOrder_cons_cons, inOrder_singleton]
  refine exists_congr fun rest => and_congr_right fun _ => and_congr_right fun _ => ?_
  constructor
  · intro hopens
    obtain ⟨gap, _, rfl, hgap, hopens⟩ := (opens_andThen_iff rfl).1 hopens
    obtain ⟨parenthesis, _, rfl, hparenthesis, hopens⟩ := (opens_andThen_iff rfl).1 hopens
    obtain ⟨gap', after, rfl, hgap', hopens⟩ := (opens_andThen_iff rfl).1 hopens
    rw [mem_language_maybe, mem_language_char, or_comm] at hparenthesis
    exact ⟨gap, parenthesis, gap', after, by simp, mem_language_blanks.1 hgap, hparenthesis,
      mem_language_blanks.1 hgap', hopens⟩
  · rintro ⟨gap, parenthesis, gap', after, rfl, hgap, hparenthesis, hgap', hopens⟩
    rw [or_comm, ← mem_language_char, ← mem_language_maybe] at hparenthesis
    rw [List.append_assoc, List.append_assoc]
    refine (opens_andThen_iff rfl).2 ⟨gap, _, rfl, mem_language_blanks.2 hgap, ?_⟩
    refine (opens_andThen_iff rfl).2 ⟨parenthesis, _, rfl, hparenthesis, ?_⟩
    exact (opens_andThen_iff rfl).2 ⟨gap', after, rfl, mem_language_blanks.2 hgap', hopens⟩

/-- The names of functions that build a failure, as a pattern. -/
def failureBuilder : Pattern :=
  anyOf [literal "Err", inOrder [wordChars, literal "Error"],
    inOrder [wordChars, literal "Exception"], literal "Failure", literal "reject"]

theorem mem_language_ending {ending : String} (hending : isRun ending.toList = true) :
    word ∈ (inOrder [wordChars, literal ending]).language ↔
      ending.toList <:+ word ∧ isRun word = true := by
  simp only [inOrder_cons_cons, inOrder_singleton, mem_language_andThen, mem_language_wordChars,
    mem_language_literal]
  obtain ⟨hne, hletters⟩ := isRun_iff.1 hending
  constructor
  · rintro ⟨start, _, rfl, hstart, rfl⟩
    refine ⟨List.suffix_append _ _, isRun_iff.2 ⟨by simp [hne], ?_⟩⟩
    exact List.forall_mem_append.2 ⟨hstart, hletters⟩
  · rintro ⟨⟨start, rfl⟩, hrun⟩
    exact ⟨start, _, rfl, (List.forall_mem_append.1 (isRun_iff.1 hrun).2).1, rfl⟩

theorem mem_language_failureBuilder_iff :
    word ∈ failureBuilder.language ↔
      (∃ ending ∈ ["Error", "Exception"],
        word ∈ (inOrder [wordChars, literal ending]).language) ∨
        ∃ whole ∈ ["Err", "Failure", "reject"], word = whole.toList := by
  simp only [failureBuilder, mem_language_anyOf, List.mem_cons, List.not_mem_nil, or_false,
    exists_eq_or_imp, exists_eq_left, mem_language_literal]
  tauto

theorem mem_language_failureBuilder :
    word ∈ failureBuilder.language ↔ BuildsFailure word ∧ isRun word = true := by
  have hendings : ∀ ending ∈ ["Error", "Exception"], isRun ending.toList = true := by
    decide +kernel
  have hwholes : ∀ whole ∈ ["Err", "Failure", "reject"], isRun whole.toList = true := by
    decide +kernel
  rw [mem_language_failureBuilder_iff]
  constructor
  · rintro (⟨ending, hending, hword⟩ | ⟨whole, hwhole, rfl⟩)
    · obtain ⟨hsuffix, hrun⟩ := (mem_language_ending (hendings ending hending)).1 hword
      exact ⟨Or.inl ⟨ending, hending, hsuffix⟩, hrun⟩
    · exact ⟨Or.inr ⟨whole, hwhole, rfl⟩, hwholes whole hwhole⟩
  · rintro ⟨⟨ending, hending, hsuffix⟩ | hwhole, hrun⟩
    · exact Or.inl ⟨ending, hending, (mem_language_ending (hendings ending hending)).2 ⟨hsuffix, hrun⟩⟩
    · exact Or.inr hwhole

/-- A return statement with a call that builds a failure.  The name of the function cannot begin
right behind the keyword, since no word character follows that. -/
theorem occurs_returnedFailureCall :
    returnedFailureCall.Occurs text ↔
      ∃ rest, text = "return".toList ++ rest ∧ beginsInWord rest = false ∧
        ReturnsFailureCall rest := by
  have hcall : returnedFailureCall = andThen (statementWord "return")
      (inOrder [anything, edge, failureBuilder, blanks, char '(']) := rfl
  have hruns : ∀ word ∈ failureBuilder.language, isRun word = true := fun word hword =>
    (mem_language_failureBuilder.1 hword).2
  rw [hcall, occurs_statement rfl]
  simp only [inOrder_cons_cons, inOrder_singleton]
  refine exists_congr fun rest => and_congr_right fun _ => and_congr_right fun hrest => ?_
  constructor
  · intro hopens
    obtain ⟨before, _, rfl, hbefore, hopens⟩ := (opens_andThen_iff rfl).1 hopens
    obtain ⟨hedge, hopens⟩ := (opens_edge_before (beginsInWord_of_reads rfl hruns)).1 hopens
    obtain ⟨name, _, rfl, hname, hopens⟩ := (opens_andThen_iff rfl).1 hopens
    obtain ⟨gap, _, rfl, hgap, hopens⟩ := (opens_andThen_iff rfl).1 hopens
    obtain ⟨parenthesis, after, rfl, hparenthesis⟩ := (opens_iff rfl).1 hopens
    obtain rfl := mem_language_char.1 hparenthesis
    obtain ⟨hbuilds, hrun⟩ := mem_language_failureBuilder.1 hname
    have hfront : endsInWord before = false := endsInWord_of_suffix (List.suffix_append _ _) hedge
    have hback : beginsInWord (gap ++ '(' :: after) = false :=
      (mem_language_blanks.1 hgap).beginsInWord_append rfl
    exact ⟨before, name, gap, after, by simp, mem_language_anything.1 hbefore,
      ⟨hrun, hfront, hback⟩, hbuilds, mem_language_blanks.1 hgap⟩
  · rintro ⟨before, name, gap, after, rfl, hbefore, hname, hbuilds, hgap⟩
    -- the name does not stand right behind the keyword, so an edge in front of it is one in the rest
    have hne : before ≠ [] := by
      rintro rfl
      rw [List.nil_append, beginsInWord_append hname.ne_nil, beginsInWord_of_isRun hname.run]
        at hrest
      cases hrest
    have hedge : endsInWord ("return".toList ++ before) = false := by
      rw [endsInWord_append _ hne]
      exact hname.front_edge
    rw [List.append_assoc]
    refine (opens_andThen_iff rfl).2 ⟨before, _, rfl, mem_language_anything.2 hbefore, ?_⟩
    refine (opens_edge_before (beginsInWord_of_reads rfl hruns)).2 ⟨hedge, ?_⟩
    refine (opens_andThen_iff rfl).2
      ⟨name, _, rfl, mem_language_failureBuilder.2 ⟨hbuilds, hname.run⟩, ?_⟩
    refine (opens_andThen_iff rfl).2 ⟨gap, _, rfl, mem_language_blanks.2 hgap, ?_⟩
    exact (opens_iff rfl).2 ⟨['('], after, rfl, mem_language_char.2 rfl⟩

/-- One of the patterns of the rule occurs in a text exactly if it is a return statement that
reports a failure. -/
theorem exists_occurs_returnPatterns_iff :
    (∃ p ∈ returnPatterns, p.Occurs text) ↔ ReturnsFailure text := by
  have hpatterns : returnPatterns = failureValues.map returning ++ [returnedFailureCall] := rfl
  rw [hpatterns]
  constructor
  · rintro ⟨p, hp, hoccurs⟩
    rcases List.mem_append.1 hp with hreturning | hcall
    · obtain ⟨value, hmem, rfl⟩ := List.mem_map.1 hreturning
      obtain ⟨rest, htext, hrest, gap, parenthesis, gap', after, hparts, hgap, hparenthesis, hgap',
        hopens⟩ := occurs_returning.1 hoccurs
      have hvalue : BeginsWithFailure after := exists_opens_failureValues_iff.1 ⟨value, hmem, hopens⟩
      exact ⟨rest, htext, hrest,
        Or.inl ⟨gap, parenthesis, gap', after, hparts, hgap, hparenthesis, hgap', hvalue⟩⟩
    · obtain rfl := List.mem_singleton.1 hcall
      obtain ⟨rest, htext, hrest, hcall⟩ := occurs_returnedFailureCall.1 hoccurs
      exact ⟨rest, htext, hrest, Or.inr hcall⟩
  · rintro ⟨rest, htext, hrest, ⟨gap, parenthesis, gap', after, hparts, hgap, hparenthesis, hgap',
      hvalue⟩ | hcall⟩
    · obtain ⟨value, hmem, hopens⟩ := exists_opens_failureValues_iff.2 hvalue
      refine ⟨returning value, List.mem_append.2 (Or.inl (List.mem_map_of_mem hmem)), ?_⟩
      exact occurs_returning.2
        ⟨rest, htext, hrest, gap, parenthesis, gap', after, hparts, hgap, hparenthesis, hgap', hopens⟩
    · exact ⟨returnedFailureCall, List.mem_append.2 (Or.inr List.mem_cons_self),
        occurs_returnedFailureCall.2 ⟨rest, htext, hrest, hcall⟩⟩

/--
The rule for return statements accepts exactly the lines whose trimmed text is the keyword, with no
word character behind it, and reports a failure by its value or by a call.
-/
theorem return_rule_accepts_returned_failures (line : Line) :
    (exitRule "return").accepts line = true ↔ ReturnsFailure (Text.trim line) := by
  have htable : exitTable.lookup "return" = some returnPatterns := rfl
  rw [exitRule_accepts_iff htable, exists_occurs_returnPatterns_iff]
  intro p hp text hoccurs
  obtain ⟨rest, rfl, -⟩ := exists_occurs_returnPatterns_iff.1 ⟨p, hp, hoccurs⟩
  exact List.prefix_append _ _

/-- Success values and longer words are none of these. -/
example : ["return 0;", "return -x;", "returnValue(-1)", "return nullable;", "return -Error;"].all
    (fun line => !(exitRule "return").accepts line.toList) = true := by
  decide +kernel

end Builtin
end BranchFold
