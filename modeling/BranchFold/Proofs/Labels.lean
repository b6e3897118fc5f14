import BranchFold.Rule.Builtin.Guards
import BranchFold.Proofs.Languages

/-!
# Labels

A label at the end of the line before a block lets the block through the depth gate.  It is a name
with a colon behind it; the name is a whole word, and nothing but blanks may part it from the rest of
the line.

Main definitions:

- {lit}`EndsInLabel`: a text that ends with a label.

Main results:

- Theorem {lit}`Builtin.occurs_trailingLabel`: the pattern finds a label at the end of a text, blanks
  behind it apart.
- Theorem {lit}`Builtin.label_rule_accepts_trailing_labels`: the rule accepts the lines whose trimmed
  text ends with a label.
-/

namespace BranchFold

open Text Pattern

/-- The text ends with a label: a whole word that begins with an ASCII letter or an underscore, at
the start of the text or behind a blank, and a colon. -/
def EndsInLabel (text : Text) : Prop :=
  ∃ front first more, text = front ++ first :: more ++ [':'] ∧
    IsWholeWord front (first :: more) [':'] ∧ (isAsciiLetter first = true ∨ first = '_') ∧
    ∀ c ∈ front.getLast?, isBlank c = true

theorem EndsInLabel.eq_append_colon {text : Text} (h : EndsInLabel text) :
    ∃ front, text = front ++ [':'] := by
  obtain ⟨front, first, more, htext, -⟩ := h
  exact ⟨front ++ first :: more, htext⟩

/-- What follows the last place of a character in a text does not depend on how the text is given. -/
theorem eq_of_append_cons_eq {front front' back back' : Text} {c : Char}
    (h : front ++ c :: back = front' ++ c :: back') (hback : c ∉ back) (hback' : c ∉ back') :
    back = back' := by
  have hlast : ∀ {front back : Text}, c ∉ back →
      (front ++ c :: back).rtakeWhile (· != c) = back := by
    intro front back hnone
    have hall : ∀ d ∈ back.reverse, (d != c) = true := by
      intro d hd
      rw [bne_iff_ne]
      rintro rfl
      exact hnone (List.mem_reverse.1 hd)
    rw [List.rtakeWhile, List.reverse_append, List.reverse_cons, List.append_assoc,
      List.takeWhile_append_of_pos hall]
    simp
  rw [← hlast hback, h, hlast hback']

namespace Builtin

variable {front word back text : Text}

/-- The characters with which the name of a label begins. -/
theorem holds_labelStart {c : Char} :
    (CharClass.union .asciiLetter (.exactly '_')).holds c = true ↔
      isAsciiLetter c = true ∨ c = '_' := by
  have hletter : c ∈ "ABCDEFGHIJKLMNOPQRSTUVWXYZabcdefghijklmnopqrstuvwxyz".toList ↔
      c.isAlpha = true := by
    have hcodes : ∀ code < 128, (Char.ofNat code).isAlpha = true → Char.ofNat code ∈
        "ABCDEFGHIJKLMNOPQRSTUVWXYZabcdefghijklmnopqrstuvwxyz".toList := by
      decide +kernel
    have hletters : "ABCDEFGHIJKLMNOPQRSTUVWXYZabcdefghijklmnopqrstuvwxyz".toList.all Char.isAlpha =
        true := by
      decide +kernel
    constructor
    · exact List.all_eq_true.1 hletters c
    · intro halpha
      have hmem := hcodes c.toNat (toNat_lt_of_isAlpha halpha)
      rw [Char.ofNat_toNat] at hmem
      exact hmem halpha
  rw [CharClass.holds_union, CharClass.holds_exactly, CharClass.asciiLetter, CharClass.holds_among,
    hletter, isAsciiLetter]

/-- The characters of the name of a label are word characters. -/
theorem isRun_label {first : Char} {more : Text} (hfirst : isAsciiLetter first = true ∨ first = '_')
    (hmore : ∀ c ∈ more, isWord c = true) : isRun (first :: more) = true := by
  refine isRun_iff.2 ⟨by simp, List.forall_mem_cons.2 ⟨?_, hmore⟩⟩
  rcases hfirst with hletter | rfl
  · exact isWord_of_isAlpha hletter
  · exact isWord_underscore

theorem endsInWord_eq_false_of_blank (h : ∀ c ∈ front.getLast?, isBlank c = true) :
    endsInWord front = false := by
  rw [endsInWord, Option.any_eq_false]
  intro c hc
  simp [isWord_of_isBlank (h c hc)]

/-- The pattern finds a label at the end of a text, blanks behind it apart. -/
theorem occurs_trailingLabel :
    trailingLabel.Occurs text ↔
      ∃ label blanks, text = label ++ blanks ∧ EndsInLabel label ∧ AllBlank blanks := by
  simp only [trailingLabel, inOrder_cons_cons, inOrder_singleton]
  rw [occurs_behind]
  constructor
  · rintro ⟨front, _, rfl, hfront, hopens⟩
    obtain ⟨_, _, rfl, ⟨first, rfl, hfirst⟩, hopens⟩ := (opens_andThen_iff rfl).1 hopens
    obtain ⟨more, _, rfl, hmore, hopens⟩ := (opens_andThen_iff rfl).1 hopens
    obtain ⟨colon, _, rfl, hcolon, hopens⟩ := (opens_andThen_iff rfl).1 hopens
    obtain ⟨gap, rest, rfl, hgap, hopens⟩ := (opens_andThen_iff rfl).1 hopens
    obtain rfl := mem_language_char.1 hcolon
    have hfirst := holds_labelStart.1 hfirst
    have hrun := isRun_label hfirst (mem_language_wordChars.1 hmore)
    have hrest : AllBlank rest := by
      rcases opens_textEnd.1 hopens with rfl | rfl
      · simp [AllBlank]
      · exact List.forall_mem_singleton.2 rfl
    refine ⟨front ++ first :: more ++ [':'], gap ++ rest, by simp, ?_, ?_⟩
    · exact ⟨front, first, more, rfl, ⟨hrun, endsInWord_eq_false_of_blank hfront, rfl⟩, hfirst, hfront⟩
    · exact List.forall_mem_append.2 ⟨mem_language_blanks.1 hgap, hrest⟩
  · rintro ⟨_, gap, rfl, ⟨front, first, more, rfl, hwhole, hfirst, hfront⟩, hgap⟩
    have hmore := (List.forall_mem_cons.1 hwhole.isWord).2
    refine ⟨front, [first] ++ (more ++ ([':'] ++ (gap ++ []))), by simp, hfront, ?_⟩
    refine (opens_andThen_iff rfl).2 ⟨[first], _, rfl, ⟨first, rfl, holds_labelStart.2 hfirst⟩, ?_⟩
    refine (opens_andThen_iff rfl).2 ⟨more, _, rfl, mem_language_wordChars.2 hmore, ?_⟩
    refine (opens_andThen_iff rfl).2 ⟨[':'], _, rfl, mem_language_char.2 rfl, ?_⟩
    refine (opens_andThen_iff rfl).2 ⟨gap, [], rfl, mem_language_blanks.2 hgap, ?_⟩
    exact opens_textEnd.2 (Or.inl rfl)

/--
The rule for labels accepts exactly the lines whose trimmed text ends with a label.  So blanks at the
ends of a line do not matter, and in a line that is accepted nothing but blanks follows the last
colon.
-/
theorem label_rule_accepts_trailing_labels (line : Line) :
    (labelRule.accepts line = true ↔ EndsInLabel (trim line)) ∧
    (∀ lead trail : Text, AllBlank lead → AllBlank trail →
      labelRule.accepts (lead ++ line ++ trail) = labelRule.accepts line) ∧
    (labelRule.accepts line = true →
      ∀ before after : Text, line = before ++ ':' :: after → ':' ∉ after → AllBlank after) := by
  have haccepts : ∀ {line : Line}, labelRule.accepts line = true ↔ EndsInLabel (trim line) := by
    intro line
    rw [labelRule, Rule.accepts_pattern_iff]
    simp only [List.mem_singleton, exists_eq_left, occurs_trailingLabel]
    constructor
    · rintro ⟨label, blanks, htrim, hlabel, hblanks⟩
      rw [eq_nil_of_trim_eq_append htrim hblanks, List.append_nil] at htrim
      rwa [htrim]
    · intro hlabel
      exact ⟨trim line, [], (List.append_nil _).symm, hlabel, by simp [AllBlank]⟩
  refine ⟨haccepts, ?_, ?_⟩
  · intro lead trail hlead htrail
    rw [Bool.eq_iff_iff, haccepts, haccepts, trim_between_blanks hlead htrail]
  · intro haccepted before after hline hafter
    obtain ⟨label, hlabel⟩ := (haccepts.1 haccepted).eq_append_colon
    obtain ⟨lead, trail, -, htrail, hparts⟩ := exists_blanks_around_trim line
    have hsplit : before ++ ':' :: after = (lead ++ label) ++ ':' :: trail := by
      rw [← hline, hparts, hlabel]
      simp
    have hnone : ':' ∉ trail := by
      intro hmem
      cases htrail _ hmem
    rwa [eq_of_append_cons_eq hsplit hafter hnone]

/-- A label behind a keyword, in a line with blanks at both ends. -/
theorem label_behind_keyword :
    let line := "  case err: ".toList
    EndsInLabel (trim line) ∧ AllBlank "\t".toList ∧ AllBlank " \n".toList ∧
      labelRule.accepts ("\t".toList ++ line ++ " \n".toList) = true ∧
      line = "  case err".toList ++ ':' :: [' '] ∧ ':' ∉ [' '] ∧ AllBlank [' '] := by
  intro line
  have haccepted : labelRule.accepts line = true := by decide +kernel
  have hlead : AllBlank "\t".toList := List.forall_mem_singleton.2 rfl
  have htrail : AllBlank " \n".toList :=
    List.forall_mem_cons.2 ⟨rfl, List.forall_mem_singleton.2 rfl⟩
  have hline : line = "  case err".toList ++ ':' :: [' '] := rfl
  obtain ⟨hexact, hblanks, hafter⟩ := label_rule_accepts_trailing_labels line
  exact ⟨hexact.1 haccepted, hlead, htrail, (hblanks _ _ hlead htrail).trans haccepted, hline,
    by decide, hafter haccepted _ _ hline (by decide)⟩

/-- Numbers, paths and text behind the colon make no label. -/
example : ["case 1:", "std::", "a.b:", "err: x", "err :"].all
    (fun line => !labelRule.accepts line.toList) = true := by
  decide +kernel

end Builtin
end BranchFold
