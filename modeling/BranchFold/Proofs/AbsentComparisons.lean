import BranchFold.Rule.Builtin.Table
import BranchFold.Proofs.GuardContext

/-!
# Comparisons with an absent value

The first two patterns of the rule for null checks look for a branch keyword and, later on its line,
for a comparison with an absent value on either side of the operator.  This module gives the grammar
of such lines and shows that the patterns find exactly those.  In every one of them the absent value
is a whole word, so the case of its letters does not matter, whereas the keyword and the operators
that are words count only as they are written.

Main definitions:

- {lit}`ComparesWithAbsent`: a branch keyword and a comparison with an absent value behind it.
- {lit}`Recased`: the same line but for the case of the letters of one name of the absent value.

Main results:

- Theorem {lit}`Recased.eq_of_isWholeWord`: whole words that name no absent value stay as they are.
- Theorem {lit}`Recased.comparesWithAbsent`: so does a comparison with an absent value.
- Theorem {lit}`Builtin.absent_comparisons_found`: the patterns find the lines of the grammar,
  whatever the case of the absent values.
-/

namespace BranchFold

open Text Pattern

/-! ## The grammar -/

/-- The signs for equality and difference. -/
def comparisonSigns : List String :=
  ["==", "===", "!=", "!=="]

/-- An operator that compares, between the two other parts of a text. -/
inductive IsComparison (front : Text) : (operator back : Text) → Prop where
  /-- A sign. -/
  | sign {sign : String} {back : Text} (hsign : sign ∈ comparisonSigns) :
      IsComparison front sign.toList back
  /-- The word for identity. -/
  | is {back : Text} (his : IsWholeWord front "is".toList back) :
      IsComparison front "is".toList back
  /-- The words for difference. -/
  | isNot {gap back : Text} (hne : gap ≠ []) (hgap : AllBlank gap)
      (his : IsWholeWord front "is".toList (gap ++ "not".toList ++ back))
      (hnot : IsWholeWord (front ++ "is".toList ++ gap) "not".toList back) :
      IsComparison front ("is".toList ++ gap ++ "not".toList) back

/-- Behind the front there stands an operator, and then an absent value. -/
def AbsentOnRight (front text : Text) : Prop :=
  ∃ operator gap name rest, text = operator ++ (gap ++ (name ++ rest)) ∧
    IsComparison front operator (gap ++ (name ++ rest)) ∧ AllBlank gap ∧ NamesAbsent name ∧
    beginsInWord rest = false

/-- Behind the front there stands an absent value, and then a sign. -/
def AbsentOnLeft (front text : Text) : Prop :=
  ∃ name gap rest, ∃ sign ∈ comparisonSigns, text = name ++ (gap ++ (sign.toList ++ rest)) ∧
    endsInWord front = false ∧ NamesAbsent name ∧ AllBlank gap

/-- In the text there is a branch keyword and, before the next line, a comparison with an absent
value. -/
def ComparesWithAbsent (text : Text) : Prop :=
  ∃ front, ∃ keyword ∈ ["if", "elif", "unless", "guard"], ∃ gap rest,
    text = front ++ keyword.toList ++ (gap ++ rest) ∧
      IsWholeWord front keyword.toList (gap ++ rest) ∧ '\n' ∉ gap ∧
      (AbsentOnRight (front ++ keyword.toList ++ gap) rest ∨
        AbsentOnLeft (front ++ keyword.toList ++ gap) rest)

/-! ## Names of the absent value in the other case -/

/-- The second line is the first one, but for the case of the letters of one whole word that names
an absent value. -/
def Recased (line line' : Text) : Prop :=
  ∃ front name name' back, line = front ++ name ++ back ∧ line' = front ++ name' ++ back ∧
    IsWholeWord front name back ∧ NamesAbsent name ∧ SameLetters name name'

/-- The case of letters does not matter to the names of the absent value. -/
theorem NamesAbsent.of_sameLetters {name name' : Text} (h : NamesAbsent name)
    (hsame : SameLetters name name') : NamesAbsent name' := by
  obtain ⟨spelling, hmem, hspells⟩ := h
  exact ⟨spelling, hmem, hsame.spells hspells⟩

theorem not_isAlpha_of_mem_comparisonSigns {sign : String} (h : sign ∈ comparisonSigns) :
    ∀ c ∈ sign.toList, c.isAlpha = false := by
  have hsigns : ∀ sign ∈ comparisonSigns, sign.toList.all (!·.isAlpha) = true := by decide +kernel
  simpa using hsigns sign h

/-- No keyword of a comparison is a name of the absent value. -/
theorem not_namesAbsent_of_mem_keywords :
    ∀ keyword ∈ ["if", "elif", "unless", "guard", "is", "not"], ¬ NamesAbsent keyword.toList := by
  decide +kernel

/-- A sign behind an absent value has no letters, so the case of letters does not matter. -/
theorem AbsentOnLeft.of_sameLetters {front text front' text' : Text} (h : AbsentOnLeft front text)
    (hfront : SameLetters front front') (htext : SameLetters text text') :
    AbsentOnLeft front' text' := by
  obtain ⟨name, gap, rest, sign, hsign, rfl, hedge, hname, hgap⟩ := h
  obtain ⟨name', _, rfl, hnameSame, hbehind⟩ := htext.exists_append
  obtain ⟨gap', _, rfl, hgapSame, hsigned⟩ := hbehind.exists_append
  obtain ⟨sign', rest', rfl, hsignSame, -⟩ := hsigned.exists_append
  obtain rfl := hgapSame.eq_of_allBlank hgap
  obtain rfl := hsignSame.eq_of_forall_not_isAlpha (not_isAlpha_of_mem_comparisonSigns hsign)
  exact ⟨name', gap', rest', sign, hsign, rfl, hfront.endsInWord_eq.trans hedge,
    hname.of_sameLetters hnameSame, hgap⟩

/-- Parts of one text that begin at the same place and have the same length are equal. -/
theorem middle_eq_of_length_eq {front word back front' word' back' : Text}
    (h : front ++ word ++ back = front' ++ word' ++ back') (hfront : front.length = front'.length)
    (hword : word.length = word'.length) : word = word' := by
  have hstart := (List.append_inj h (by simp [hfront, hword])).1
  exact (List.append_inj hstart hfront).2

namespace Recased

variable {text text' front word back front' word' back' : Text}

theorem symm (h : Recased text text') : Recased text' text := by
  obtain ⟨front, name, name', back, htext, htext', hwhole, habsent, hsame⟩ := h
  exact ⟨front, name', name, back, htext', htext, hwhole.of_sameLetters rfl hsame rfl,
    habsent.of_sameLetters hsame, hsame.symm⟩

theorem sameLetters (h : Recased text text') : SameLetters text text' := by
  obtain ⟨front, name, name', back, rfl, rfl, -, -, hsame⟩ := h
  exact (SameLetters.append rfl hsame).append rfl

/-- Trimming both lines leaves lines of the same kind. -/
theorem trimmed (h : Recased text text') : Recased (trim text) (trim text') := by
  obtain ⟨front, name, name', back, rfl, rfl, hwhole, habsent, hsame⟩ := h
  have hwhole' : IsWholeWord front name' back := hwhole.of_sameLetters rfl hsame rfl
  exact ⟨trimStart front, name, name', trimEnd back, hwhole.trim_eq, hwhole'.trim_eq,
    hwhole.trimmed, habsent, hsame⟩

/-- Whole words that name no absent value stay as they are: they stand before or behind the one
that was changed. -/
theorem eq_of_isWholeWord (h : Recased text text') (hword : IsWholeWord front word back)
    (hnot : ¬ NamesAbsent word) (htext : text = front ++ word ++ back)
    (htext' : text' = front' ++ word' ++ back') (hfront : SameLetters front front')
    (hsame : SameLetters word word') : word' = word := by
  obtain ⟨start, name, name', rest, rfl, rfl, hwhole, habsent, hname⟩ := h
  rcases hword.eq_or_apart hwhole htext.symm with
    ⟨-, rfl, -⟩ | ⟨gap, rfl, -⟩ | ⟨gap, rfl, rfl⟩
  · exact absurd habsent hnot
  · have hparts : front ++ word ++ (gap ++ name' ++ rest) = front' ++ word' ++ back' := by
      rw [← htext']
      simp only [List.append_assoc]
    exact (middle_eq_of_length_eq hparts hfront.length_eq hsame.length_eq).symm
  · have hparts : start ++ name' ++ gap ++ word ++ back = front' ++ word' ++ back' := by
      rw [← htext']
      simp only [List.append_assoc]
    have hlength : (start ++ name' ++ gap).length = front'.length := by
      rw [← hfront.length_eq]
      simp [hname.length_eq]
    exact (middle_eq_of_length_eq hparts hlength hsame.length_eq).symm

/-- Operators stay operators: signs have no letters, and words that are operators are whole. -/
theorem isComparison (h : Recased text text') (hword : IsComparison front word back)
    (htext : text = front ++ word ++ back) (htext' : text' = front' ++ word' ++ back')
    (hfront : SameLetters front front') (hsame : SameLetters word word')
    (hback : SameLetters back back') : IsComparison front' word' back' := by
  cases hword with
  | @sign sign _ hsign =>
    rw [hsame.eq_of_forall_not_isAlpha (not_isAlpha_of_mem_comparisonSigns hsign)]
    exact .sign hsign
  | is his =>
    have hnot := not_namesAbsent_of_mem_keywords "is" (by decide)
    obtain rfl := h.eq_of_isWholeWord his hnot htext htext' hfront hsame
    exact .is (his.of_sameLetters hfront hsame hback)
  | @isNot gap _ hne hgap his hnot =>
    obtain ⟨_, not', rfl, hstart, hnotSame⟩ := hsame.exists_append
    obtain ⟨is', gap', rfl, hisSame, hgapSame⟩ := hstart.exists_append
    -- blanks have no letters, and both words are whole words that name no absent value
    obtain rfl := hgapSame.eq_of_allBlank hgap
    obtain rfl : is' = "is".toList :=
      h.eq_of_isWholeWord his (not_namesAbsent_of_mem_keywords "is" (by decide))
        (by simp only [htext, List.append_assoc]) (by simp only [htext', List.append_assoc]; rfl)
        hfront hisSame
    obtain rfl : not' = "not".toList :=
      h.eq_of_isWholeWord hnot (not_namesAbsent_of_mem_keywords "not" (by decide))
        (by simp only [htext, List.append_assoc]) (by simp only [htext', List.append_assoc]; rfl)
        ((hfront.append rfl).append rfl) hnotSame
    exact .isNot hne hgap
      (his.of_sameLetters hfront rfl ((SameLetters.append rfl rfl).append hback))
      (hnot.of_sameLetters ((hfront.append rfl).append rfl) rfl hback)

theorem absentOnRight (h : Recased text text') (hright : AbsentOnRight front back)
    (htext : text = front ++ back) (htext' : text' = front' ++ back')
    (hfront : SameLetters front front') (hback : SameLetters back back') :
    AbsentOnRight front' back' := by
  obtain ⟨operator, gap, name, rest, rfl, hoperator, hgap, hname, hrest⟩ := hright
  obtain ⟨operator', _, rfl, hsame, hbehind⟩ := hback.exists_append
  obtain ⟨gap', _, rfl, hgapSame, hvalue⟩ := hbehind.exists_append
  obtain ⟨name', rest', rfl, hnameSame, hrestSame⟩ := hvalue.exists_append
  have hoperator' : IsComparison front' operator' (gap' ++ (name' ++ rest')) :=
    h.isComparison hoperator (by simp only [htext, List.append_assoc])
      (by simp only [htext', List.append_assoc]) hfront hsame hbehind
  obtain rfl := hgapSame.eq_of_allBlank hgap
  exact ⟨operator', gap', name', rest', rfl, hoperator', hgap, hname.of_sameLetters hnameSame,
    hrestSame.beginsInWord_eq.trans hrest⟩

/-- A comparison with an absent value stays one. -/
theorem comparesWithAbsent (h : Recased text text') (htext : ComparesWithAbsent text) :
    ComparesWithAbsent text' := by
  obtain ⟨front, keyword, hkeyword, gap, rest, htext, hwhole, hgap, hcompared⟩ := htext
  have hsame := h.sameLetters
  rw [htext] at hsame
  obtain ⟨_, _, htext', hstart, hbehind⟩ := hsame.exists_append
  obtain ⟨front', keyword', rfl, hfront, hkeywordSame⟩ := hstart.exists_append
  obtain ⟨gap', rest', rfl, hgapSame, hrest⟩ := hbehind.exists_append
  -- the keyword is a whole word and no name of the absent value
  have hnot : ¬ NamesAbsent keyword.toList :=
    not_namesAbsent_of_mem_keywords keyword (List.mem_append_left ["is", "not"] hkeyword)
  obtain rfl := h.eq_of_isWholeWord hwhole hnot htext htext' hfront hkeywordSame
  have hbefore : SameLetters (front ++ keyword.toList ++ gap) (front' ++ keyword.toList ++ gap') :=
    hstart.append hgapSame
  refine ⟨front', keyword, hkeyword, gap', rest', htext', hwhole.of_sameLetters hfront rfl hbehind,
    hgapSame.newline_not_mem hgap, ?_⟩
  rcases hcompared with hright | hleft
  · exact Or.inl (h.absentOnRight hright (by simp only [htext, List.append_assoc])
      (by simp only [htext', List.append_assoc]) hbefore hrest)
  · exact Or.inr (hleft.of_sameLetters hbefore hrest)

end Recased

/-! ## The patterns -/

namespace Builtin

variable {front word back text : Text}

/-- Behind a sign of two characters one more may stand. -/
theorem mem_language_sign {sign : String} :
    word ∈ (inOrder [literal sign, maybe (char '=')]).language ↔
      word = sign.toList ∨ word = sign.toList ++ ['='] := by
  simp only [inOrder_cons_cons, inOrder_singleton, mem_language_andThen, mem_language_literal,
    mem_language_maybe, mem_language_char]
  constructor
  · rintro ⟨_, _, rfl, rfl, rfl | rfl⟩
    · exact Or.inr rfl
    · exact Or.inl (List.append_nil _)
  · rintro (rfl | rfl)
    · exact ⟨_, [], (List.append_nil _).symm, rfl, Or.inr rfl⟩
    · exact ⟨_, ['='], rfl, rfl, Or.inl rfl⟩

theorem mem_language_comparison :
    word ∈ comparison.language ↔ ∃ sign ∈ comparisonSigns, word = sign.toList := by
  rw [comparison, language, Language.mem_add, equals, differs, mem_language_sign, mem_language_sign]
  simp only [comparisonSigns, List.mem_cons, List.not_mem_nil, or_false, exists_eq_or_imp,
    exists_eq_left, or_assoc]
  rfl

/-- The words for difference are read from the first to the last with blanks between them. -/
theorem reads_isNot :
    (inOrder [edge, literal "is", oneOrMore (one .blank), literal "not", edge]).Reads
        front word back ↔
      ∃ gap, word = "is".toList ++ (gap ++ "not".toList) ∧ gap ≠ [] ∧ AllBlank gap ∧
        endsInWord front = false ∧ beginsInWord back = false := by
  have hwords : (andThen (literal "is") (andThen (oneOrMore (one .blank))
      (andThen (literal "not") edge))).Reads front word back ↔
        ∃ gap, word = "is".toList ++ (gap ++ "not".toList) ∧ gap ≠ [] ∧ AllBlank gap ∧
          beginsInWord back = false := by
    rw [reads_andThen_iff rfl]
    constructor
    · rintro ⟨_, _, rfl, his, hrest⟩
      obtain ⟨gap, _, rfl, hgap, hnot⟩ := (reads_andThen_iff rfl).1 hrest
      obtain rfl := mem_language_literal.1 his
      obtain ⟨hne, hblank⟩ := mem_language_oneOrMore_one.1 hgap
      obtain ⟨rfl, hback⟩ := (reads_literal_edge rfl).1 hnot
      exact ⟨gap, rfl, hne, hblank, hback⟩
    · rintro ⟨gap, rfl, hne, hblank, hback⟩
      refine ⟨"is".toList, gap ++ "not".toList, rfl, mem_language_literal.2 rfl, ?_⟩
      exact (reads_andThen_iff rfl).2 ⟨gap, "not".toList, rfl,
        mem_language_oneOrMore_one.2 ⟨hne, hblank⟩, (reads_literal_edge rfl).2 ⟨rfl, hback⟩⟩
  simp only [inOrder_cons_cons, inOrder_singleton]
  rw [reads_edge_before, hwords]
  · constructor
    · rintro ⟨hfront, gap, hword, hne, hblank, hback⟩
      exact ⟨gap, hword, hne, hblank, hfront, hback⟩
    · rintro ⟨gap, hword, hne, hblank, hfront, hback⟩
      exact ⟨hfront, gap, hword, hne, hblank, hback⟩
  · intro hreads
    obtain ⟨gap, rfl, -⟩ := hwords.1 hreads
    rfl

/-- The operators that the patterns find, between the two other parts of a text. -/
theorem reads_operator :
    (either comparison identityWords).Reads front word back ↔ IsComparison front word back := by
  have hidentity : identityWords = either
      (inOrder [edge, literal "is", oneOrMore (one .blank), literal "not", edge])
      (andThen edge (andThen (literal "is") edge)) := rfl
  have hrun : ∀ word ∈ (literal "is").language, isRun word = true := by
    intro word hword
    rw [mem_language_literal.1 hword]
    decide +kernel
  rw [hidentity, reads_either, reads_either, reads_isNot, reads_wholeWord rfl hrun, reads_iff rfl,
    mem_language_comparison, mem_language_literal]
  constructor
  · rintro (⟨sign, hsign, rfl⟩ | ⟨gap, rfl, hne, hgap, hfront, hback⟩ | ⟨rfl, his⟩)
    · exact .sign hsign
    · rw [← List.append_assoc]
      refine .isNot hne hgap ⟨by decide +kernel, hfront, ?_⟩ ⟨by decide +kernel, ?_, hback⟩
      · rw [List.append_assoc]
        exact hgap.beginsInWord_eq_false hne _
      · exact hgap.endsInWord_eq_false hne _
    · exact .is his
  · intro h
    cases h with
    | sign hsign => exact Or.inl ⟨_, hsign, rfl⟩
    | is his => exact Or.inr (Or.inr ⟨rfl, his⟩)
    | isNot hne hgap his hnot =>
      exact Or.inr (Or.inl ⟨_, List.append_assoc .., hne, hgap, his.front_edge, hnot.back_edge⟩)

/-- A guard is a branch keyword and, before the next line, what the pattern asks for behind it. -/
theorem occurs_guarding {condition : Pattern} :
    (guarding condition).Occurs text ↔
      ∃ front, ∃ keyword ∈ branchNames, ∃ gap rest,
        text = front ++ keyword.toList ++ (gap ++ rest) ∧
          IsWholeWord front keyword.toList (gap ++ rest) ∧ '\n' ∉ gap ∧
          condition.Opens (front ++ keyword.toList ++ gap) rest := by
  rw [guarding, inOrder_cons_cons, inOrder_cons_cons, inOrder_singleton, occurs_iff_opens]
  constructor
  · rintro ⟨front, _, rfl, hopens⟩
    obtain ⟨_, _, rfl, hkeyword, hopens⟩ := opens_andThen.1 hopens
    obtain ⟨gap, rest, rfl, hgap, hopens⟩ := (opens_andThen_iff rfl).1 hopens
    obtain ⟨⟨keyword, hname, rfl⟩, hwhole⟩ := reads_branchWord.1 hkeyword
    exact ⟨front, keyword, hname, gap, rest, (List.append_assoc ..).symm, hwhole,
      mem_language_anything.1 hgap, hopens⟩
  · rintro ⟨front, keyword, hname, gap, rest, rfl, hwhole, hgap, hopens⟩
    refine ⟨front, keyword.toList ++ (gap ++ rest), List.append_assoc .., ?_⟩
    refine opens_andThen.2 ⟨keyword.toList, gap ++ rest, rfl,
      reads_branchWord.2 ⟨⟨keyword, hname, rfl⟩, hwhole⟩, ?_⟩
    exact (opens_andThen_iff rfl).2 ⟨gap, rest, rfl, mem_language_anything.2 hgap, hopens⟩

theorem opens_comparedWithAbsent :
    (inOrder [either comparison identityWords, blanks, absentValue, edge]).Opens front text ↔
      AbsentOnRight front text := by
  rw [inOrder_cons_cons, inOrder_cons_cons, opens_andThen]
  constructor
  · rintro ⟨operator, _, rfl, hoperator, hopens⟩
    obtain ⟨gap, _, rfl, hgap, hopens⟩ := (opens_andThen_iff rfl).1 hopens
    obtain ⟨name, rest, rfl, hname, hrest⟩ := opens_absentValue_edge.1 hopens
    exact ⟨operator, gap, name, rest, rfl, reads_operator.1 hoperator, mem_language_blanks.1 hgap,
      hname, hrest⟩
  · rintro ⟨operator, gap, name, rest, rfl, hoperator, hgap, hname, hrest⟩
    refine ⟨operator, gap ++ (name ++ rest), rfl, reads_operator.2 hoperator, ?_⟩
    refine (opens_andThen_iff rfl).2 ⟨gap, name ++ rest, rfl, mem_language_blanks.2 hgap, ?_⟩
    exact opens_absentValue_edge.2 ⟨name, rest, rfl, hname, hrest⟩

theorem opens_absentCompared :
    (inOrder [edge, absentValue, blanks, comparison]).Opens front text ↔
      AbsentOnLeft front text := by
  have hruns : ∀ word ∈ absentValue.language, isRun word = true := fun word hword =>
    (mem_language_absentValue.1 hword).isRun
  rw [inOrder_cons_cons, inOrder_cons_cons, opens_edge_before (beginsInWord_of_reads rfl hruns)]
  constructor
  · rintro ⟨hfront, hopens⟩
    obtain ⟨name, _, rfl, hname, hopens⟩ := (opens_andThen_iff rfl).1 hopens
    obtain ⟨gap, _, rfl, hgap, hopens⟩ := (opens_andThen_iff rfl).1 hopens
    obtain ⟨_, rest, rfl, hsign⟩ := (opens_iff rfl).1 hopens
    obtain ⟨sign, hmem, rfl⟩ := mem_language_comparison.1 hsign
    exact ⟨name, gap, rest, sign, hmem, rfl, hfront, mem_language_absentValue.1 hname,
      mem_language_blanks.1 hgap⟩
  · rintro ⟨name, gap, rest, sign, hmem, rfl, hfront, hname, hgap⟩
    refine ⟨hfront, (opens_andThen_iff rfl).2 ⟨name, _, rfl, mem_language_absentValue.2 hname, ?_⟩⟩
    refine (opens_andThen_iff rfl).2 ⟨gap, _, rfl, mem_language_blanks.2 hgap, ?_⟩
    exact (opens_iff rfl).2
      ⟨sign.toList, rest, rfl, mem_language_comparison.2 ⟨sign, hmem, rfl⟩⟩

/-- One of the two patterns occurs in a text exactly if it compares with an absent value. -/
theorem occurs_comparison_iff :
    comparedWithAbsent.Occurs text ∨ absentCompared.Occurs text ↔ ComparesWithAbsent text := by
  rw [comparedWithAbsent, absentCompared, occurs_guarding, occurs_guarding]
  simp only [opens_comparedWithAbsent, opens_absentCompared]
  constructor
  · rintro (⟨front, keyword, hname, gap, rest, htext, hwhole, hgap, hright⟩ |
      ⟨front, keyword, hname, gap, rest, htext, hwhole, hgap, hleft⟩)
    · exact ⟨front, keyword, hname, gap, rest, htext, hwhole, hgap, Or.inl hright⟩
    · exact ⟨front, keyword, hname, gap, rest, htext, hwhole, hgap, Or.inr hleft⟩
  · rintro ⟨front, keyword, hname, gap, rest, htext, hwhole, hgap, hright | hleft⟩
    · exact Or.inl ⟨front, keyword, hname, gap, rest, htext, hwhole, hgap, hright⟩
    · exact Or.inr ⟨front, keyword, hname, gap, rest, htext, hwhole, hgap, hleft⟩

/-- One of the first two patterns of the rule for null checks occurs in the trimmed line. -/
def findsAbsentComparison (line : Line) : Bool :=
  [0, 1].any fun index => (pattern? "null_check" index).any (·.occursIn (trim line))

theorem findsAbsentComparison_iff {line : Line} :
    findsAbsentComparison line = true ↔ ComparesWithAbsent (trim line) := by
  have hfirst : pattern? "null_check" 0 = some comparedWithAbsent := rfl
  have hsecond : pattern? "null_check" 1 = some absentCompared := rfl
  rw [← occurs_comparison_iff]
  simp [findsAbsentComparison, hfirst, hsecond, occursIn_iff]

/--
The first two patterns of the rule for null checks find exactly the lines whose trimmed text
compares with an absent value behind a branch keyword.  Hence the case of the letters of a name of
the absent value, wherever it stands in the line, does not matter.
-/
theorem absent_comparisons_found (line : Line) :
    (findsAbsentComparison line = true ↔ ComparesWithAbsent (trim line)) ∧
    ∀ line' : Line, Recased line line' →
      findsAbsentComparison line' = findsAbsentComparison line := by
  refine ⟨findsAbsentComparison_iff, ?_⟩
  intro line' hrecased
  rw [Bool.eq_iff_iff, findsAbsentComparison_iff, findsAbsentComparison_iff]
  exact ⟨hrecased.trimmed.symm.comparesWithAbsent, hrecased.trimmed.comparesWithAbsent⟩

/-- A null check with the absent value in mixed case. -/
theorem absent_comparison_in_mixed_case :
    Recased "if (p is not None):".toList "if (p is not nOnE):".toList ∧
      findsAbsentComparison "if (p is not nOnE):".toList = true := by
  have hrecased : Recased "if (p is not None):".toList "if (p is not nOnE):".toList :=
    ⟨"if (p is not ".toList, "None".toList, "nOnE".toList, "):".toList, by decide +kernel,
      by decide +kernel, ⟨by decide +kernel, by decide +kernel, by decide +kernel⟩,
      by decide +kernel, by decide +kernel⟩
  refine ⟨hrecased, ?_⟩
  rw [(absent_comparisons_found _).2 _ hrecased]
  decide +kernel

end Builtin
end BranchFold
