import BranchFold.Pattern.Meaning
import BranchFold.Proofs.Words
import BranchFold.Rule.Builtin.Vocabulary
import Mathlib.Computability.Language

/-!
# The language of a pattern

A pattern covers a word that stands between two other parts of a text.  Only its conditions look at
those parts: a pattern without conditions covers the words of a formal language, wherever they
stand.  So the patterns of the rules are read off piece by piece, the pieces without conditions as
languages and the conditions as statements about the neighbouring characters.

Main definitions:

- {lit}`Pattern.Reads`: the pattern covers the word that stands between two parts of a text.
- {lit}`Pattern.language`: the words that a pattern without conditions covers.
- {lit}`Pattern.Opens`: the pattern covers the beginning of what follows a place of a text.
- {lit}`NamesAbsent`: one of the names of the absent value, letters in either case.

Main results:

- Theorem {lit}`Pattern.occurs_iff`: a pattern occurs where it covers a word between two parts.
- Theorem {lit}`Pattern.reads_iff`: a pattern without conditions covers the words of its language.
- Theorems {lit}`Pattern.reads_edge_before` and {lit}`Pattern.reads_edge_behind`: what an edge at
  either end of a word asks of the neighbouring text.
-/

/-- The formal languages over characters.  It stands outside the namespace, where the name of a
language means a programming language. -/
abbrev CharLanguage := Language Char

namespace BranchFold

/-- A rule with patterns accepts the lines in whose trimmed text one of them occurs. -/
theorem Rule.accepts_pattern_iff {name category : String} {scope : Scope} {patterns : List Pattern}
    {line : Line} :
    (Rule.pattern name category scope patterns).accepts line = true ↔
      ∃ p ∈ patterns, p.Occurs (Text.trim line) := by
  simp [Rule.accepts, Rule.showsPattern, Rule.opening, Rule.patterns, Pattern.occursIn_iff]

namespace Pattern

variable {p q : Pattern} {front word back : Text}

/-! ## Words between two parts of a text -/

/-- The pattern covers the word that stands between the two other parts of a text. -/
def Reads (p : Pattern) (front word back : Text) : Prop :=
  p.Spans ⟨front.reverse, word ++ back⟩ ⟨(front ++ word).reverse, back⟩

/-- Between the ends of a stretch there stands a word. -/
theorem Spans.exists_word {x y : Cursor} (h : p.Spans x y) :
    ∃ word, x.after = word ++ y.after ∧ y.before = word.reverse ++ x.before := by
  induction h with
  | nothing x => exact ⟨[], rfl, rfl⟩
  | one before after => exact ⟨[_], rfl, rfl⟩
  | place => exact ⟨[], rfl, rfl⟩
  | andThen _ _ ihp ihq =>
    obtain ⟨u, hu, hu'⟩ := ihp
    obtain ⟨v, hv, hv'⟩ := ihq
    exact ⟨u ++ v, by rw [hu, hv, List.append_assoc], by simp [hu', hv']⟩
  | left _ ih => exact ih
  | right _ ih => exact ih
  | stop x => exact ⟨[], rfl, rfl⟩
  | more _ _ ihp ihrest =>
    obtain ⟨u, hu, hu'⟩ := ihp
    obtain ⟨v, hv, hv'⟩ := ihrest
    exact ⟨u ++ v, by rw [hu, hv, List.append_assoc], by simp [hu', hv']⟩

/-- A stretch that begins at a place of a text covers the next word there. -/
theorem Spans.exists_reads {y : Cursor} (h : p.Spans ⟨front.reverse, back⟩ y) :
    ∃ u v, back = u ++ v ∧ y = ⟨(front ++ u).reverse, v⟩ ∧ p.Reads front u v := by
  obtain ⟨u, hafter, hbefore⟩ := h.exists_word
  obtain ⟨before, v⟩ := y
  dsimp only at hafter hbefore
  subst hafter
  obtain rfl : before = (front ++ u).reverse := by rw [hbefore, List.reverse_append]
  exact ⟨u, v, rfl, rfl, h⟩

/-- A pattern occurs in a text when it covers a word between two parts of it. -/
theorem occurs_iff {text : Text} :
    p.Occurs text ↔ ∃ front word back, text = front ++ word ++ back ∧ p.Reads front word back := by
  constructor
  · rintro ⟨⟨before, after⟩, y, rfl, hspans⟩
    rw [← List.reverse_reverse before] at hspans
    obtain ⟨word, back, rfl, -, hreads⟩ := hspans.exists_reads
    exact ⟨before.reverse, word, back, by rw [Cursor.text, List.append_assoc], hreads⟩
  · rintro ⟨front, word, back, rfl, hreads⟩
    exact ⟨_, _, by simp [Cursor.text], hreads⟩

/-! ## Words by shape of the pattern -/

@[simp]
theorem reads_nothing : nothing.Reads front word back ↔ word = [] := by
  simp [Reads]

@[simp]
theorem not_reads_never : ¬ never.Reads front word back :=
  not_spans_never

@[simp]
theorem reads_one {accepted : CharClass} :
    (one accepted).Reads front word back ↔ ∃ c, word = [c] ∧ accepted.holds c = true := by
  constructor
  · intro h
    obtain ⟨before, c, after, hx, hy, hc⟩ := spans_one.1 h
    obtain ⟨rfl, hafter⟩ := Cursor.mk.inj hx
    obtain ⟨-, rfl⟩ := Cursor.mk.inj hy
    have hword : word ++ back = [c] ++ back := hafter
    exact ⟨c, List.append_cancel_right hword, hc⟩
  · rintro ⟨c, rfl, hc⟩
    rw [Reads, List.reverse_append]
    exact .one _ _ hc

@[simp]
theorem reads_place {condition : Condition} :
    (place condition).Reads front word back ↔
      word = [] ∧ condition.met ⟨front.reverse, back⟩ = true := by
  rw [Reads, spans_place]
  constructor
  · rintro ⟨hxy, hmet⟩
    have hnil : word = [] := by simpa using congrArg Cursor.after hxy
    subst hnil
    exact ⟨rfl, hmet⟩
  · rintro ⟨rfl, hmet⟩
    exact ⟨by simp, hmet⟩

/-- A sequence covers a word of the first part and then one of the second. -/
theorem reads_andThen :
    (andThen p q).Reads front word back ↔
      ∃ u v, word = u ++ v ∧ p.Reads front u (v ++ back) ∧ q.Reads (front ++ u) v back := by
  constructor
  · intro h
    obtain ⟨y, hp, hq⟩ := spans_andThen.1 h
    obtain ⟨u, rest, hword, rfl, hu⟩ := hp.exists_reads
    obtain ⟨v, back', rfl, hend, hv⟩ := hq.exists_reads
    obtain ⟨-, rfl⟩ := Cursor.mk.inj hend
    exact ⟨u, v, by rw [← List.append_assoc] at hword; exact List.append_cancel_right hword, hu, hv⟩
  · rintro ⟨u, v, rfl, hu, hv⟩
    rw [Reads, List.append_assoc]
    refine .andThen hu ?_
    rwa [Reads, List.append_assoc] at hv

@[simp]
theorem reads_either :
    (either p q).Reads front word back ↔ p.Reads front word back ∨ q.Reads front word back :=
  spans_either

/-- A repetition covers nothing, or a word of its body and then one of its own. -/
theorem reads_many :
    (many p).Reads front word back ↔ word = [] ∨ (andThen p (many p)).Reads front word back := by
  rw [Reads, Reads, spans_many, spans_andThen]
  refine or_congr_left ⟨?_, ?_⟩
  · intro hxy
    simpa using congrArg Cursor.after hxy
  · rintro rfl
    simp

theorem inOrder_cons_cons (p q : Pattern) (rest : List Pattern) :
    inOrder (p :: q :: rest) = andThen p (inOrder (q :: rest)) := rfl

theorem inOrder_singleton (p : Pattern) : inOrder [p] = p := rfl

/-! ## Languages -/

/-- No condition looks at what stands around the word. -/
def isUnconditional : Pattern → Bool
  | nothing => true
  | never => true
  | one _ => true
  | place _ => false
  | andThen p q => p.isUnconditional && q.isUnconditional
  | either p q => p.isUnconditional && q.isUnconditional
  | many p => p.isUnconditional

/-- The words that the pattern covers, conditions apart. -/
def language : Pattern → CharLanguage
  | nothing => 1
  | never => 0
  | one accepted => {word | ∃ c, word = [c] ∧ accepted.holds c = true}
  | place _ => 0
  | andThen p q => p.language * q.language
  | either p q => p.language + q.language
  | many p => KStar.kstar p.language

theorem mem_language_andThen :
    word ∈ (andThen p q).language ↔ ∃ u v, word = u ++ v ∧ u ∈ p.language ∧ v ∈ q.language := by
  rw [language, Language.mem_mul]
  constructor
  · rintro ⟨u, hu, v, hv, rfl⟩
    exact ⟨u, v, rfl, hu, hv⟩
  · rintro ⟨u, v, rfl, hu, hv⟩
    exact ⟨u, hu, v, hv, rfl⟩

/-- The stretches of a repetition are made of words of its body. -/
theorem exists_parts_of_spans_many (h : ∀ {front word back}, p.Reads front word back →
    word ∈ p.language) {x y : Cursor} (hspans : (many p).Spans x y) :
    ∃ parts : List Text, x.after = parts.flatten ++ y.after ∧ ∀ part ∈ parts, part ∈ p.language := by
  generalize hm : many p = m at hspans
  induction hspans with
  | nothing => cases hm
  | one => cases hm
  | place => cases hm
  | andThen => cases hm
  | left => cases hm
  | right => cases hm
  | stop x => exact ⟨[], rfl, by simp⟩
  | @more _ x y z hp _ _ ih =>
    cases hm
    obtain ⟨before, after⟩ := x
    rw [← List.reverse_reverse before] at hp
    obtain ⟨u, v, hafter, rfl, hreads⟩ := hp.exists_reads
    obtain ⟨parts, hv, hparts⟩ := ih rfl
    dsimp only at hafter hv
    refine ⟨u :: parts, ?_, List.forall_mem_cons.2 ⟨h hreads, hparts⟩⟩
    rw [List.flatten_cons, hafter, hv, List.append_assoc]

/-- A repetition covers any number of words that its body covers, one after another. -/
theorem reads_many_iff (h : ∀ {front word back}, p.Reads front word back ↔ word ∈ p.language) :
    (many p).Reads front word back ↔ word ∈ (many p).language := by
  rw [language, Language.mem_kstar]
  constructor
  · intro hreads
    obtain ⟨parts, hword, hparts⟩ := exists_parts_of_spans_many h.1 hreads
    exact ⟨parts, List.append_cancel_right hword, hparts⟩
  · rintro ⟨parts, rfl, hparts⟩
    induction parts generalizing front with
    | nil => exact reads_many.2 (Or.inl rfl)
    | cons part parts ih =>
      obtain ⟨hpart, hrest⟩ := List.forall_mem_cons.1 hparts
      exact reads_many.2 (Or.inr (reads_andThen.2
        ⟨part, parts.flatten, rfl, h.2 hpart, ih hrest⟩))

/-- A pattern without conditions covers the words of its language, whatever stands around them. -/
theorem reads_iff (hp : p.isUnconditional = true) :
    p.Reads front word back ↔ word ∈ p.language := by
  induction p generalizing front word back with
  | nothing => simp [language]
  | never => simp [language]
  | one accepted => exact reads_one
  | place condition => simp [isUnconditional] at hp
  | andThen p q ihp ihq =>
    simp only [isUnconditional, Bool.and_eq_true] at hp
    simp only [reads_andThen, ihp hp.1, ihq hp.2, mem_language_andThen]
  | either p q ihp ihq =>
    simp only [isUnconditional, Bool.and_eq_true] at hp
    simp only [reads_either, ihp hp.1, ihq hp.2, language, Language.mem_add]
  | many p ih => exact reads_many_iff (ih hp)

/-- A sequence whose first part has no conditions. -/
theorem reads_andThen_iff (hp : p.isUnconditional = true) :
    (andThen p q).Reads front word back ↔
      ∃ u v, word = u ++ v ∧ u ∈ p.language ∧ q.Reads (front ++ u) v back := by
  simp only [reads_andThen, reads_iff hp]

/-! ## The languages of composed patterns -/

theorem isUnconditional_inOrder (parts : List Pattern) :
    (inOrder parts).isUnconditional = parts.all isUnconditional := by
  fun_induction inOrder parts with
  | case1 => rfl
  | case2 p => simp
  | case3 p rest _ ih => rw [isUnconditional, ih, List.all_cons]

theorem isUnconditional_anyOf (choices : List Pattern) :
    (anyOf choices).isUnconditional = choices.all isUnconditional := by
  fun_induction anyOf choices with
  | case1 => rfl
  | case2 p => simp
  | case3 p rest _ ih => rw [isUnconditional, ih, List.all_cons]

@[simp]
theorem isUnconditional_literal (name : String) : (literal name).isUnconditional = true := by
  simp [literal, isUnconditional_inOrder, char, isUnconditional]

@[simp]
theorem isUnconditional_anyCases (names : List String) :
    (anyCases names).isUnconditional = true := by
  simp [anyCases, anyCase, isUnconditional_anyOf, isUnconditional_inOrder, isUnconditional]

/-- A list of patterns in order covers the words of its first member, each before a word of the
others. -/
theorem language_inOrder (parts : List Pattern) :
    (inOrder parts).language = (parts.map language).prod := by
  fun_induction inOrder parts with
  | case1 => rfl
  | case2 p => simp
  | case3 p rest _ ih => rw [language, ih, List.map_cons, List.prod_cons]

theorem mem_language_anyOf {choices : List Pattern} :
    word ∈ (anyOf choices).language ↔ ∃ p ∈ choices, word ∈ p.language := by
  fun_induction anyOf choices with
  | case1 => simp [language]
  | case2 p => simp
  | case3 p rest _ ih => simp [language, Language.mem_add, ih]

theorem mem_language_maybe : word ∈ (maybe p).language ↔ word ∈ p.language ∨ word = [] := by
  rw [maybe, language, Language.mem_add, language, Language.mem_one]

theorem mem_language_one {accepted : CharClass} :
    word ∈ (one accepted).language ↔ ∃ c, word = [c] ∧ accepted.holds c = true :=
  Iff.rfl

/-- Single characters one after another cover the words that agree with them place by place. -/
theorem mem_language_ones {α : Type} {accepted : α → CharClass} {letters : List α} :
    word ∈ (inOrder (letters.map fun l => one (accepted l))).language ↔
      List.Forall₂ (fun l c => (accepted l).holds c = true) letters word := by
  rw [language_inOrder, List.map_map]
  induction letters generalizing word with
  | nil => simp
  | cons l rest ih =>
    rw [List.map_cons, List.prod_cons, Language.mem_mul, List.forall₂_cons_left_iff]
    constructor
    · rintro ⟨u, ⟨c, rfl, hc⟩, v, hv, rfl⟩
      exact ⟨c, v, hc, ih.1 hv, rfl⟩
    · rintro ⟨c, v, hc, hv, rfl⟩
      exact ⟨[c], ⟨c, rfl, hc⟩, v, ih.2 hv, rfl⟩

/-- Any number of characters of a class. -/
theorem mem_language_many_one {accepted : CharClass} :
    word ∈ (many (one accepted)).language ↔ ∀ c ∈ word, accepted.holds c = true := by
  rw [language, Language.mem_kstar]
  constructor
  · rintro ⟨parts, rfl, hparts⟩ c hc
    obtain ⟨part, hpart, hc⟩ := List.mem_flatten.1 hc
    obtain ⟨d, rfl, hd⟩ := hparts part hpart
    rwa [List.mem_singleton.1 hc]
  · intro hall
    refine ⟨word.map fun c => [c], ?_, ?_⟩
    · rw [← List.flatMap_def, List.flatMap_singleton']
    · intro part hpart
      obtain ⟨c, hc, rfl⟩ := List.mem_map.1 hpart
      exact ⟨c, rfl, hall c hc⟩

theorem mem_language_oneOrMore_one {accepted : CharClass} :
    word ∈ (oneOrMore (one accepted)).language ↔
      word ≠ [] ∧ ∀ c ∈ word, accepted.holds c = true := by
  rw [oneOrMore, language, Language.mem_mul]
  constructor
  · rintro ⟨u, ⟨c, rfl, hc⟩, v, hv, rfl⟩
    exact ⟨by simp, List.forall_mem_cons.2 ⟨hc, mem_language_many_one.1 hv⟩⟩
  · rintro ⟨hne, hall⟩
    obtain ⟨c, rest, rfl⟩ := List.exists_cons_of_ne_nil hne
    obtain ⟨hc, hrest⟩ := List.forall_mem_cons.1 hall
    exact ⟨[c], ⟨c, rfl, hc⟩, rest, mem_language_many_one.2 hrest, rfl⟩

@[simp]
theorem mem_language_char {c : Char} : word ∈ (char c).language ↔ word = [c] := by
  rw [char, mem_language_one]
  simp

@[simp]
theorem mem_language_literal {name : String} :
    word ∈ (literal name).language ↔ word = name.toList := by
  rw [literal, show name.toList.map char = name.toList.map fun c => one (.exactly c) from rfl,
    mem_language_ones]
  have hsame : (fun l c => (CharClass.exactly l).holds c = true) = (· = ·) := by
    funext l c
    rw [CharClass.holds_exactly, eq_iff_iff, eq_comm]
  rw [hsame, List.forall₂_eq_eq_eq, eq_comm]

@[simp]
theorem mem_language_anyCase {name : String} :
    word ∈ (anyCase name).language ↔ Text.Spells name word := by
  have hholds : ∀ l c : Char, (if l.isAlpha then CharClass.letter l else .exactly l).holds c =
      Text.standsFor l c := by
    intro l c
    unfold Text.standsFor
    split <;> rfl
  rw [anyCase, mem_language_ones]
  simp only [hholds]
  rfl

@[simp]
theorem mem_language_literals {names : List String} :
    word ∈ (literals names).language ↔ ∃ name ∈ names, word = name.toList := by
  simp [literals, mem_language_anyOf]

@[simp]
theorem mem_language_anyCases {names : List String} :
    word ∈ (anyCases names).language ↔ ∃ name ∈ names, Text.Spells name word := by
  simp [anyCases, mem_language_anyOf]

@[simp]
theorem mem_language_blanks : word ∈ blanks.language ↔ Text.AllBlank word :=
  mem_language_many_one

@[simp]
theorem mem_language_wordChars :
    word ∈ wordChars.language ↔ ∀ c ∈ word, Text.isWord c = true :=
  mem_language_many_one

@[simp]
theorem mem_language_anything : word ∈ anything.language ↔ '\n' ∉ word := by
  rw [anything, mem_language_many_one]
  simp only [CharClass.holds_visible]
  constructor
  · intro hall hmem
    exact hall _ hmem rfl
  · rintro hnot c hc rfl
    exact hnot hc

/-! ## Conditions -/

theorem wordAt_eq_beginsInWord (back : Text) : Cursor.wordAt back = Text.beginsInWord back := by
  cases back <;> rfl

theorem wordAt_reverse (front : Text) : Cursor.wordAt front.reverse = Text.endsInWord front := by
  rw [wordAt_eq_beginsInWord, Text.beginsInWord, List.head?_reverse]
  rfl

/-- A word begins or ends between two parts of a text. -/
theorem reads_edge :
    edge.Reads front word back ↔ word = [] ∧ Text.endsInWord front ≠ Text.beginsInWord back := by
  rw [edge, reads_place, Condition.met, wordAt_reverse, wordAt_eq_beginsInWord, bne_iff_ne]

theorem reads_textStart : textStart.Reads front word back ↔ word = [] ∧ front = [] := by
  rw [textStart, reads_place, Condition.met]
  simp

/-- In front of a word an edge asks that the text before does not end in a word. -/
theorem reads_edge_before (hp : p.Reads front word back → Text.beginsInWord word = true) :
    (andThen edge p).Reads front word back ↔
      Text.endsInWord front = false ∧ p.Reads front word back := by
  have hbegins (hword : p.Reads front word back) : Text.beginsInWord (word ++ back) = true := by
    have hbegin := hp hword
    rwa [Text.beginsInWord_append]
    rintro rfl
    cases hbegin
  rw [reads_andThen]
  constructor
  · rintro ⟨_, v, rfl, hedge, hv⟩
    obtain ⟨rfl, hne⟩ := reads_edge.1 hedge
    rw [List.append_nil] at hv
    rw [List.nil_append] at hbegins ⊢
    rw [hbegins hv] at hne
    exact ⟨by simpa using hne, hv⟩
  · rintro ⟨hfront, hword⟩
    refine ⟨[], word, rfl, reads_edge.2 ⟨rfl, ?_⟩, by rwa [List.append_nil]⟩
    rw [hfront, hbegins hword]
    decide

/-- Behind a word an edge asks that the text after does not begin with a word. -/
theorem reads_edge_behind (hp : ∀ {back}, p.Reads front word back → Text.endsInWord word = true) :
    (andThen p edge).Reads front word back ↔
      p.Reads front word back ∧ Text.beginsInWord back = false := by
  have hends {back} (hword : p.Reads front word back) : Text.endsInWord (front ++ word) = true := by
    have hend := hp hword
    rwa [Text.endsInWord_append]
    rintro rfl
    cases hend
  rw [reads_andThen]
  constructor
  · rintro ⟨u, _, rfl, hu, hedge⟩
    obtain ⟨rfl, hne⟩ := reads_edge.1 hedge
    rw [List.append_nil] at hends ⊢
    rw [List.nil_append] at hu
    rw [hends hu] at hne
    exact ⟨hu, by simpa using hne.symm⟩
  · rintro ⟨hword, hback⟩
    refine ⟨word, [], (List.append_nil word).symm, hword, reads_edge.2 ⟨rfl, ?_⟩⟩
    rw [hends hword, hback]
    decide

/-- A word that is written out, with no word character behind it. -/
theorem reads_literal_edge {name : String} (hname : Text.endsInWord name.toList = true) :
    (andThen (literal name) edge).Reads front word back ↔
      word = name.toList ∧ Text.beginsInWord back = false := by
  have hliteral : ∀ {back : Text}, (literal name).Reads front word back ↔ word = name.toList := by
    intro back
    rw [reads_iff (isUnconditional_literal name), mem_language_literal]
  have hends : ∀ {back : Text}, (literal name).Reads front word back →
      Text.endsInWord word = true := by
    intro back hword
    rwa [hliteral.1 hword]
  rw [reads_edge_behind hends, hliteral]

/-- A sequence whose first part covers runs of word characters begins in a word. -/
theorem beginsInWord_of_reads (hp : p.isUnconditional = true)
    (hruns : ∀ word ∈ p.language, Text.isRun word = true)
    (h : (andThen p q).Reads front word back) : Text.beginsInWord word = true := by
  obtain ⟨u, v, rfl, hu, -⟩ := (reads_andThen_iff hp).1 h
  have hrun := hruns u hu
  rw [Text.beginsInWord_append (Text.isRun_iff.1 hrun).1, Text.beginsInWord_of_isRun hrun]

/-- Edges at both ends of a run ask that it is a whole word. -/
theorem reads_wholeWord (hp : p.isUnconditional = true)
    (hruns : ∀ word ∈ p.language, Text.isRun word = true) :
    (andThen edge (andThen p edge)).Reads front word back ↔
      word ∈ p.language ∧ Text.IsWholeWord front word back := by
  have hmem : ∀ {back}, p.Reads front word back ↔ word ∈ p.language := reads_iff hp
  have hends : ∀ {back}, p.Reads front word back → Text.endsInWord word = true :=
    fun hword => Text.endsInWord_of_isRun (hruns word (hmem.1 hword))
  have hbehind : (andThen p edge).Reads front word back ↔
      word ∈ p.language ∧ Text.beginsInWord back = false := by
    rw [reads_edge_behind hends, hmem]
  rw [reads_edge_before (beginsInWord_of_reads hp hruns), hbehind]
  constructor
  · rintro ⟨hfront, hword, hback⟩
    exact ⟨hword, hruns word hword, hfront, hback⟩
  · rintro ⟨hword, hwhole⟩
    exact ⟨hwhole.front_edge, hword, hwhole.back_edge⟩

/-! ## The beginning of a text -/

/-- The pattern covers the first characters of the text that follows the front. -/
def Opens (p : Pattern) (front text : Text) : Prop :=
  ∃ word back, text = word ++ back ∧ p.Reads front word back

variable {text : Text}

/-- A pattern occurs in a text when it opens the rest of it behind some front. -/
theorem occurs_iff_opens :
    p.Occurs text ↔ ∃ front rest, text = front ++ rest ∧ p.Opens front rest := by
  rw [occurs_iff]
  constructor
  · rintro ⟨front, word, back, rfl, hreads⟩
    exact ⟨front, word ++ back, List.append_assoc .., word, back, rfl, hreads⟩
  · rintro ⟨front, _, rfl, word, back, rfl, hreads⟩
    exact ⟨front, word, back, (List.append_assoc ..).symm, hreads⟩

theorem opens_andThen :
    (andThen p q).Opens front text ↔
      ∃ word rest, text = word ++ rest ∧ p.Reads front word rest ∧ q.Opens (front ++ word) rest := by
  constructor
  · rintro ⟨_, back, rfl, hreads⟩
    obtain ⟨u, v, rfl, hu, hv⟩ := reads_andThen.1 hreads
    exact ⟨u, v ++ back, List.append_assoc .., hu, v, back, rfl, hv⟩
  · rintro ⟨u, _, rfl, hu, v, back, rfl, hv⟩
    exact ⟨u ++ v, back, (List.append_assoc ..).symm, reads_andThen.2 ⟨u, v, rfl, hu, hv⟩⟩

/-- A pattern without conditions opens the texts that begin with a word of its language. -/
theorem opens_iff (hp : p.isUnconditional = true) :
    p.Opens front text ↔ ∃ word back, text = word ++ back ∧ word ∈ p.language := by
  simp only [Opens, reads_iff hp]

theorem opens_either :
    (either p q).Opens front text ↔ p.Opens front text ∨ q.Opens front text := by
  simp only [Opens, reads_either, and_or_left, exists_or]

theorem opens_anyOf {choices : List Pattern} :
    (anyOf choices).Opens front text ↔ ∃ p ∈ choices, p.Opens front text := by
  fun_induction anyOf choices with
  | case1 => simp [Opens]
  | case2 p => simp
  | case3 p rest _ ih => rw [opens_either, ih, List.exists_mem_cons_iff]

/-- A sequence whose first part has no conditions. -/
theorem opens_andThen_iff (hp : p.isUnconditional = true) :
    (andThen p q).Opens front text ↔
      ∃ word rest, text = word ++ rest ∧ word ∈ p.language ∧ q.Opens (front ++ word) rest := by
  simp only [opens_andThen, reads_iff hp]

/-- A pattern for the start of a text occurs there or nowhere. -/
theorem occurs_textStart : (andThen textStart p).Occurs text ↔ p.Opens [] text := by
  rw [occurs_iff_opens]
  constructor
  · rintro ⟨front, rest, rfl, hopens⟩
    obtain ⟨start, rest, rfl, hstart, hrest⟩ := opens_andThen.1 hopens
    obtain ⟨rfl, rfl⟩ := reads_textStart.1 hstart
    exact hrest
  · intro hopens
    exact ⟨[], text, rfl, opens_andThen.2 ⟨[], text, rfl, reads_textStart.2 ⟨rfl, rfl⟩, hopens⟩⟩

/-- A pattern behind the start of the text or one character of a class. -/
theorem occurs_behind {accepted : CharClass} :
    (andThen (either textStart (one accepted)) p).Occurs text ↔
      ∃ front rest, text = front ++ rest ∧ (∀ c ∈ front.getLast?, accepted.holds c = true) ∧
        p.Opens front rest := by
  rw [occurs_iff_opens]
  constructor
  · rintro ⟨front, _, rfl, hopens⟩
    obtain ⟨start, rest, rfl, hstart, hrest⟩ := opens_andThen.1 hopens
    refine ⟨front ++ start, rest, (List.append_assoc ..).symm, ?_, hrest⟩
    rcases reads_either.1 hstart with hstart | hstart
    · obtain ⟨rfl, rfl⟩ := reads_textStart.1 hstart
      simp
    · obtain ⟨c, rfl, hc⟩ := reads_one.1 hstart
      simpa using hc
  · rintro ⟨front, rest, rfl, hfront, hrest⟩
    rcases List.eq_nil_or_concat' front with rfl | ⟨init, c, rfl⟩
    · refine ⟨[], rest, rfl, opens_andThen.2 ⟨[], rest, rfl, ?_, hrest⟩⟩
      exact reads_either.2 (Or.inl (reads_textStart.2 ⟨rfl, rfl⟩))
    · have hc : accepted.holds c = true := by simpa using hfront
      refine ⟨init, [c] ++ rest, List.append_assoc .., opens_andThen.2 ⟨[c], rest, rfl, ?_, hrest⟩⟩
      exact reads_either.2 (Or.inr (reads_one.2 ⟨c, rfl, hc⟩))

/-- At the end of the text there may be one line feed more. -/
theorem opens_textEnd : textEnd.Opens front text ↔ text = [] ∨ text = ['\n'] := by
  have hend : ∀ {word back : Text}, textEnd.Reads front word back ↔
      word = [] ∧ (back = [] ∨ back = ['\n']) := by
    intro word back
    rw [textEnd, reads_place, Condition.met]
    simp
  simp only [Opens, hend]
  constructor
  · rintro ⟨_, back, rfl, rfl, hback⟩
    exact hback
  · intro htext
    exact ⟨[], text, rfl, rfl, htext⟩

theorem opens_edge_before
    (hp : ∀ {word back}, p.Reads front word back → Text.beginsInWord word = true) :
    (andThen edge p).Opens front text ↔ Text.endsInWord front = false ∧ p.Opens front text := by
  constructor
  · rintro ⟨word, back, rfl, hreads⟩
    obtain ⟨hfront, hword⟩ := (reads_edge_before hp).1 hreads
    exact ⟨hfront, word, back, rfl, hword⟩
  · rintro ⟨hfront, word, back, rfl, hword⟩
    exact ⟨word, back, rfl, (reads_edge_before hp).2 ⟨hfront, hword⟩⟩

theorem opens_edge_behind
    (hp : ∀ {word back}, p.Reads front word back → Text.endsInWord word = true) :
    (andThen p edge).Opens front text ↔
      ∃ word back, text = word ++ back ∧ p.Reads front word back ∧
        Text.beginsInWord back = false := by
  simp only [Opens, reads_edge_behind hp]

/-- Behind words of a language an edge asks only for the text after them. -/
theorem opens_edge_behind_iff (hp : p.isUnconditional = true)
    (hends : ∀ word ∈ p.language, Text.endsInWord word = true) :
    (andThen p edge).Opens front text ↔
      ∃ word back, text = word ++ back ∧ word ∈ p.language ∧ Text.beginsInWord back = false := by
  have hends' : ∀ {word back}, p.Reads front word back → Text.endsInWord word = true :=
    fun hword => hends _ ((reads_iff hp).1 hword)
  simp only [opens_edge_behind hends', reads_iff hp]

end Pattern

/-! ## Absent values -/

/-- The names of the value that stands for "no object". -/
def absentNames : List String :=
  ["null", "nullptr", "nil", "none", "undefined"]

/-- The text is one of the names of the absent value, letters in either case. -/
def NamesAbsent (text : Text) : Prop :=
  ∃ name ∈ absentNames, Text.Spells name text

instance (text : Text) : Decidable (NamesAbsent text) :=
  inferInstanceAs (Decidable (∃ name ∈ absentNames,
    List.Forall₂ (fun letter c => Text.standsFor letter c = true) name.toList text))

theorem NamesAbsent.isRun {text : Text} (h : NamesAbsent text) : Text.isRun text = true := by
  have hnames : ∀ name ∈ absentNames, Text.isRun name.toList = true := by decide +kernel
  obtain ⟨name, hname, hspells⟩ := h
  exact hspells.isRun (hnames name hname)

namespace Builtin

open Pattern

theorem mem_language_absentValue {word : Text} :
    word ∈ absentValue.language ↔ NamesAbsent word :=
  mem_language_anyCases

/-- An absent value that no word character follows. -/
theorem opens_absentValue_edge {front text : Text} :
    (inOrder [absentValue, edge]).Opens front text ↔
      ∃ name rest, text = name ++ rest ∧ NamesAbsent name ∧ Text.beginsInWord rest = false := by
  have hends : ∀ word ∈ absentValue.language, Text.endsInWord word = true := fun word hword =>
    Text.endsInWord_of_isRun (mem_language_absentValue.1 hword).isRun
  rw [inOrder_cons_cons, inOrder_singleton, opens_edge_behind_iff rfl hends]
  simp only [mem_language_absentValue]

end Builtin
end BranchFold
