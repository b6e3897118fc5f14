import BranchFold.Rule.Builtin.Reports
import BranchFold.Proofs.Languages

/-!
# Text literals, read from left to right

Whoever reads a text from left to right knows at each place whether it lies in a text literal.  A
quote outside every literal opens one, the same quote closes it, and a backslash in a literal takes
the next character with it.  This module gives that reading as a run of states and relates the
patterns for literals to it.

The pattern that passes over whole literals reads them the same way, but for those in backticks: in
these it knows no escapes.  So it takes a backtick behind a backslash for the end of the literal.

Main definitions:

- {lit}`Quoting`: where a place lies with respect to the literals of a text.
- {lit}`Quoting.run`: the place behind a text.
- {lit}`Quoting.EscapesBacktick`: a literal in backticks has an escaped backtick.
- {lit}`Quoting.Covered`: the patterns cover a text that leads to a place.

Main results:

- Theorem {lit}`Quoting.run_passedOver`: what is passed over leads from outside every literal to
  outside every literal, unless a literal in backticks has an escaped backtick.
- Theorem {lit}`Quoting.covered_iff`: without backticks and line feeds the patterns cover a text
  exactly as it is read.
-/

namespace BranchFold

open Pattern Builtin

/-- The quotes that open a literal. -/
def quoteMarks : List Char :=
  ['"', '\'', '\x60']

/-- Where a place of a text lies with respect to its literals. -/
inductive Quoting where
  /-- Outside every literal. -/
  | outside
  /-- In a literal with the given quote, before a character or an escape of it. -/
  | inside (mark : Char)
  /-- In such a literal, behind a backslash that takes the next character with it. -/
  | escaped (mark : Char)
  deriving DecidableEq, Repr

namespace Quoting

/-! ## The reading -/

/-- The place behind one more character. -/
def step : Quoting → Char → Quoting
  | outside, c => if c ∈ quoteMarks then inside c else outside
  | inside mark, c => if c = mark then outside else if c = '\\' then escaped mark else inside mark
  | escaped mark, _ => inside mark

/-- The place behind a text that begins at the given place. -/
def run (state : Quoting) (text : Text) : Quoting :=
  text.foldl step state

@[simp]
theorem run_nil (state : Quoting) : state.run [] = state := rfl

@[simp]
theorem run_cons (state : Quoting) (c : Char) (text : Text) :
    state.run (c :: text) = (state.step c).run text := rfl

theorem run_append (state : Quoting) (text more : Text) :
    state.run (text ++ more) = (state.run text).run more :=
  List.foldl_append

@[simp]
theorem step_escaped (mark c : Char) : (escaped mark).step c = inside mark := rfl

theorem step_outside {c : Char} (h : c ∈ quoteMarks) : outside.step c = inside c :=
  if_pos h

theorem step_outside_of_notMem {c : Char} (h : c ∉ quoteMarks) : outside.step c = outside :=
  if_neg h

@[simp]
theorem step_inside_self (mark : Char) : (inside mark).step mark = outside :=
  if_pos rfl

theorem step_inside_of_ne {mark c : Char} (hmark : c ≠ mark) (hescape : c ≠ '\\') :
    (inside mark).step c = inside mark := by
  rw [step, if_neg hmark, if_neg hescape]

theorem step_inside_backslash {mark : Char} (hmark : mark ≠ '\\') :
    (inside mark).step '\\' = escaped mark := by
  rw [step, if_neg hmark.symm, if_pos rfl]

theorem ne_backslash_of_mem {mark : Char} (h : mark ∈ quoteMarks) : mark ≠ '\\' := by
  rintro rfl
  exact absurd h (by decide)

/-! ## Escaped backticks -/

/-- In a literal in backticks there is a backtick that a backslash escapes. -/
def EscapesBacktick (text : Text) : Prop :=
  ∃ front back, text = front ++ '\x60' :: back ∧ outside.run front = escaped '\x60'

namespace EscapesBacktick

variable {text : Text}

theorem backtick_mem (h : EscapesBacktick text) : '\x60' ∈ text := by
  obtain ⟨front, back, rfl, -⟩ := h
  simp

theorem append (h : EscapesBacktick text) (more : Text) : EscapesBacktick (text ++ more) := by
  obtain ⟨front, back, rfl, hrun⟩ := h
  exact ⟨front, back ++ more, by simp, hrun⟩

/-- Text that leads outside every literal may stand before. -/
theorem behind {before : Text} (h : EscapesBacktick text) (hbefore : outside.run before = outside) :
    EscapesBacktick (before ++ text) := by
  obtain ⟨front, back, rfl, hrun⟩ := h
  refine ⟨before ++ front, back, (List.append_assoc ..).symm, ?_⟩
  rw [run_append, hbefore, hrun]

end EscapesBacktick

/-! ## What the patterns for literals cover -/

variable {word : Text} {mark : Char}

/-- A unit of a literal is a character or an escape. -/
theorem mem_language_literalUnit :
    word ∈ (literalUnit mark).language ↔
      (∃ c, word = [c] ∧ c ≠ mark ∧ c ≠ '\\') ∨ ∃ c, word = ['\\', c] ∧ c ≠ '\n' := by
  rw [literalUnit, language, Language.mem_add, mem_language_one, inOrder_cons_cons,
    inOrder_singleton, mem_language_andThen]
  simp only [mem_language_char, mem_language_one, CharClass.holds_outside, CharClass.holds_visible,
    List.mem_cons, List.not_mem_nil, or_false, not_or]
  refine or_congr_right ⟨?_, ?_⟩
  · rintro ⟨_, _, rfl, rfl, c, rfl, hc⟩
    exact ⟨c, rfl, hc⟩
  · rintro ⟨c, rfl, hc⟩
    exact ⟨['\\'], [c], rfl, rfl, c, rfl, hc⟩

/-- A whole literal is its body between two quotes. -/
theorem mem_language_between {body : Pattern} :
    word ∈ (inOrder [char mark, body, char mark]).language ↔
      ∃ inner ∈ body.language, word = mark :: (inner ++ [mark]) := by
  simp only [inOrder_cons_cons, inOrder_singleton, mem_language_andThen, mem_language_char]
  constructor
  · rintro ⟨_, _, rfl, rfl, inner, _, rfl, hinner, rfl⟩
    exact ⟨inner, hinner, rfl⟩
  · rintro ⟨inner, hinner, rfl⟩
    exact ⟨[mark], _, rfl, rfl, inner, [mark], rfl, hinner, rfl⟩

/-- What is passed over at a time: a character that is no quote, or a whole literal. -/
def passedPart : Pattern :=
  anyOf [one (.outside quoteMarks), escapedLiteral '"', escapedLiteral '\'', rawLiteral '\x60']

theorem mem_language_passedPart :
    word ∈ passedPart.language ↔
      (∃ c, word = [c] ∧ c ∉ quoteMarks) ∨
        (∃ mark ∈ ['"', '\''], word ∈ (escapedLiteral mark).language) ∨
        word ∈ (rawLiteral '\x60').language := by
  simp only [passedPart, mem_language_anyOf, List.mem_cons, List.not_mem_nil, or_false,
    exists_eq_or_imp, exists_eq_left, mem_language_one, CharClass.holds_outside, or_assoc]

/-- A repetition covers one word of its body more. -/
theorem append_mem_language_many {p : Pattern} {part : Text} (hword : word ∈ (many p).language)
    (hpart : part ∈ p.language) : word ++ part ∈ (many p).language := by
  exact Set.mem_of_mem_of_subset (Language.append_mem_mul hword hpart)
    (kstar_mul_le_kstar (a := p.language))

/-- The patterns cover the text that leads to the given place: whole literals are passed over, and
an open one is its quote and its units up to the place. -/
inductive Covered : Quoting → Text → Prop where
  | outside {passed : Text} (hpassed : passed ∈ passedOver.language) : Covered outside passed
  | inside {passed units : Text} {mark : Char} (hmark : mark ∈ quoteMarks)
      (hpassed : passed ∈ passedOver.language)
      (hunits : units ∈ (many (literalUnit mark)).language) :
      Covered (inside mark) (passed ++ mark :: units)
  | escaped {passed units : Text} {mark : Char} (hmark : mark ∈ quoteMarks)
      (hpassed : passed ∈ passedOver.language)
      (hunits : units ∈ (many (literalUnit mark)).language) :
      Covered (escaped mark) (passed ++ mark :: units ++ ['\\'])

/-! ## From the patterns to the reading -/

/-- What keeps the place, part by part, keeps it as a whole. -/
theorem run_of_mem_many {p : Pattern} {state : Quoting}
    (hbody : ∀ part ∈ p.language, state.run part = state) (hword : word ∈ (many p).language) :
    state.run word = state := by
  obtain ⟨parts, rfl, hparts⟩ := Language.mem_kstar.1 hword
  clear hword
  induction parts with
  | nil => rfl
  | cons part parts ih =>
    obtain ⟨hpart, hrest⟩ := List.forall_mem_cons.1 hparts
    rw [List.flatten_cons, run_append, hbody part hpart, ih hrest]

/-- The units of a literal stay in it. -/
theorem run_units (hmark : mark ≠ '\\') (hword : word ∈ (many (literalUnit mark)).language) :
    (inside mark).run word = inside mark := by
  refine run_of_mem_many ?_ hword
  intro unit hunit
  rcases mem_language_literalUnit.1 hunit with ⟨c, rfl, hc, hescape⟩ | ⟨c, rfl, -⟩
  · exact step_inside_of_ne hc hescape
  · rw [run_cons, step_inside_backslash hmark, run_cons, step_escaped, run_nil]

/-- A whole literal leads outside again. -/
theorem run_escapedLiteral (hmark : mark ∈ quoteMarks)
    (hword : word ∈ (escapedLiteral mark).language) : outside.run word = outside := by
  obtain ⟨inner, hinner, rfl⟩ := mem_language_between.1 hword
  rw [run_cons, step_outside hmark, run_append, run_units (ne_backslash_of_mem hmark) hinner,
    run_cons, step_inside_self, run_nil]

/-- Without the quote of a literal one stays in it. -/
theorem run_inside_of_notMem {inner : Text} (hmark : mark ≠ '\\') (h : mark ∉ inner) :
    (inside mark).run inner = inside mark ∨ (inside mark).run inner = escaped mark := by
  induction inner using List.reverseRecOn with
  | nil => exact Or.inl rfl
  | append_singleton front c ih =>
    simp only [List.mem_append, List.mem_singleton, not_or] at h
    rw [run_append, run_cons, run_nil]
    rcases ih h.1 with hinside | hescaped
    · rw [hinside]
      by_cases hc : c = '\\'
      · exact Or.inr (hc ▸ step_inside_backslash hmark)
      · exact Or.inl (step_inside_of_ne (Ne.symm h.2) hc)
    · rw [hescaped, step_escaped]
      exact Or.inl rfl

/-- A literal in backticks that is read without escapes leads outside again, unless its last backtick
is escaped. -/
theorem run_rawLiteral (hword : word ∈ (rawLiteral '\x60').language) :
    outside.run word = outside ∨ EscapesBacktick word := by
  have hmark : '\x60' ∈ quoteMarks := by decide
  obtain ⟨inner, hinner, rfl⟩ := mem_language_between.1 hword
  have hnone : '\x60' ∉ inner := by
    intro hmem
    simpa using mem_language_many_one.1 hinner _ hmem
  rcases run_inside_of_notMem (ne_backslash_of_mem hmark) hnone with hinside | hescaped
  · refine Or.inl ?_
    rw [run_cons, step_outside hmark, run_append, hinside, run_cons, step_inside_self, run_nil]
  · refine Or.inr ⟨'\x60' :: inner, [], rfl, ?_⟩
    rw [run_cons, step_outside hmark, hescaped]

theorem run_passedPart (hword : word ∈ passedPart.language) :
    outside.run word = outside ∨ EscapesBacktick word := by
  have hquotes : ∀ mark ∈ ['"', '\''], mark ∈ quoteMarks := by simp [quoteMarks]
  rcases mem_language_passedPart.1 hword with ⟨c, rfl, hc⟩ | ⟨mark, hmark, hliteral⟩ | hraw
  · exact Or.inl (step_outside_of_notMem hc)
  · exact Or.inl (run_escapedLiteral (hquotes mark hmark) hliteral)
  · exact run_rawLiteral hraw

/-- What is passed over leads from outside every literal to outside every literal, unless a literal
in backticks has an escaped backtick. -/
theorem run_passedOver (hword : word ∈ passedOver.language) :
    outside.run word = outside ∨ EscapesBacktick word := by
  obtain ⟨parts, rfl, hparts⟩ := Language.mem_kstar.1 hword
  clear hword
  induction parts with
  | nil => exact Or.inl rfl
  | cons part parts ih =>
    obtain ⟨hpart, hrest⟩ := List.forall_mem_cons.1 hparts
    rw [List.flatten_cons]
    rcases run_passedPart hpart with houtside | hescape
    · rcases ih hrest with hend | hescape
      · exact Or.inl (by rw [run_append, houtside, hend])
      · exact Or.inr (hescape.behind houtside)
    · exact Or.inr (hescape.append parts.flatten)

/-- What is passed over and an open literal behind it lead into that literal. -/
theorem run_opened {passed units : Text} (hmark : mark ∈ quoteMarks)
    (hpassed : passed ∈ passedOver.language) (hunits : units ∈ (many (literalUnit mark)).language) :
    outside.run (passed ++ mark :: units) = inside mark ∨
      EscapesBacktick (passed ++ mark :: units) := by
  rcases run_passedOver hpassed with houtside | hescape
  · refine Or.inl ?_
    rw [run_append, houtside, run_cons, step_outside hmark,
      run_units (ne_backslash_of_mem hmark) hunits]
  · exact Or.inr (hescape.append _)

/-- The patterns cover a text as it is read, unless a literal in backticks has an escaped
backtick. -/
theorem Covered.run_eq_or_escapes {state : Quoting} {text : Text} (h : Covered state text) :
    Quoting.outside.run text = state ∨ EscapesBacktick text := by
  cases h with
  | outside hpassed => exact run_passedOver hpassed
  | inside hmark hpassed hunits => exact run_opened hmark hpassed hunits
  | escaped hmark hpassed hunits =>
    rcases run_opened hmark hpassed hunits with hinside | hescape
    · refine Or.inl ?_
      rw [run_append, hinside, run_cons, step_inside_backslash (ne_backslash_of_mem hmark), run_nil]
    · exact Or.inr (hescape.append _)

/-! ## From the reading to the patterns -/

/-- One more part is passed over. -/
theorem passedOver_append {passed part : Text} (hpassed : passed ∈ passedOver.language)
    (hpart : part ∈ passedPart.language) : passed ++ part ∈ passedOver.language :=
  append_mem_language_many (p := passedPart) hpassed hpart

/-- The patterns go on with the reading, one character at a time. -/
theorem Covered.step {state : Quoting} {text : Text} {c : Char} (h : Covered state text)
    (hbacktick : c ≠ '\x60') (hnewline : c ≠ '\n') : Covered (state.step c) (text ++ [c]) := by
  have hquote : ∀ {mark}, mark ∈ quoteMarks → mark ≠ '\x60' → mark ∈ ['"', '\''] := by
    intro mark hmark hne
    simpa [quoteMarks, hne] using hmark
  cases h with
  | outside hpassed =>
    by_cases hc : c ∈ quoteMarks
    · rw [step_outside hc]
      exact .inside hc hpassed (Language.nil_mem_kstar _)
    · rw [step_outside_of_notMem hc]
      exact .outside (passedOver_append hpassed (mem_language_passedPart.2 (Or.inl ⟨c, rfl, hc⟩)))
  | @inside passed units mark hmark hpassed hunits =>
    by_cases hc : c = mark
    · -- the literal is whole now, and passed over
      subst hc
      have hliteral : c :: (units ++ [c]) ∈ (escapedLiteral c).language :=
        mem_language_between.2 ⟨units, hunits, rfl⟩
      rw [step_inside_self, List.append_assoc]
      exact .outside (passedOver_append hpassed
        (mem_language_passedPart.2 (Or.inr (Or.inl ⟨c, hquote hmark hbacktick, hliteral⟩))))
    · by_cases hescape : c = '\\'
      · subst hescape
        rw [step_inside_backslash (Ne.symm hc)]
        exact .escaped hmark hpassed hunits
      · have hunit := mem_language_literalUnit.2 (Or.inl ⟨c, rfl, hc, hescape⟩)
        rw [step_inside_of_ne hc hescape, List.append_assoc]
        exact .inside hmark hpassed (append_mem_language_many hunits hunit)
  | @escaped passed units mark hmark hpassed hunits =>
    have hunit : ['\\', c] ∈ (literalUnit mark).language :=
      mem_language_literalUnit.2 (Or.inr ⟨c, rfl, hnewline⟩)
    have htext : passed ++ mark :: units ++ ['\\'] ++ [c] = passed ++ mark :: (units ++ ['\\', c]) := by
      simp
    rw [step_escaped, htext]
    exact .inside hmark hpassed (append_mem_language_many hunits hunit)

/-- The patterns cover a text without backticks and line feeds as it is read. -/
theorem covered_run {text : Text} (hbacktick : '\x60' ∉ text) (hnewline : '\n' ∉ text) :
    Covered (outside.run text) text := by
  induction text using List.reverseRecOn with
  | nil => exact .outside (Language.nil_mem_kstar _)
  | append_singleton front c ih =>
    simp only [List.mem_append, List.mem_singleton, not_or] at hbacktick hnewline
    rw [run_append, run_cons, run_nil]
    exact (ih hbacktick.1 hnewline.1).step (Ne.symm hbacktick.2) (Ne.symm hnewline.2)

/-- The patterns cover a text without backticks and line feeds exactly as it is read. -/
theorem covered_iff {state : Quoting} {text : Text} (hbacktick : '\x60' ∉ text)
    (hnewline : '\n' ∉ text) : Covered state text ↔ outside.run text = state := by
  constructor
  · intro h
    exact h.run_eq_or_escapes.resolve_right fun hescape => hbacktick hescape.backtick_mem
  · rintro rfl
    exact covered_run hbacktick hnewline

end Quoting
end BranchFold
