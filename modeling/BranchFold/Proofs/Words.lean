import BranchFold.Text.Letter
import BranchFold.Text.Word
import Mathlib

/-!
# Words in a text

A word of a text is a run of word characters that cannot be extended to either side.  Keywords are
looked for as whole words, and names of errors and of absent values ignoring the case of letters.
This module says both without patterns.

Main definitions:

- {lit}`Text.beginsInWord`, {lit}`Text.endsInWord`: the text has a word character at that end.
- {lit}`Text.isRun`: one or more word characters and nothing else.
- {lit}`Text.IsWholeWord`: a word, as a part of the text in which it stands.
- {lit}`Text.Spells`: the text is the given word, letters in either case.
- {lit}`Text.SameLetters`: equal texts but for the case of ASCII letters.
- {lit}`Text.AllBlank`: nothing but blanks.

Main results:

- Theorem {lit}`Text.IsWholeWord.eq_or_apart`: two whole words of a text are one and the same or
  have no character in common.
- Theorem {lit}`Text.Spells.isRun`: what spells a run of word characters is one.
- Theorem {lit}`Text.trim_append`: trimming does not reach past a part without blanks at its ends.
- Theorem {lit}`Text.IsWholeWord.of_sameLetters`: the case of letters does not matter to where words
  begin and end.
-/

namespace BranchFold
namespace Text

/-! ## Word characters at the ends of a text -/

/-- The text begins with a word character. -/
def beginsInWord (text : Text) : Bool :=
  text.head?.any isWord

/-- The text ends with a word character. -/
def endsInWord (text : Text) : Bool :=
  text.getLast?.any isWord

@[simp]
theorem beginsInWord_nil : beginsInWord [] = false := rfl

@[simp]
theorem beginsInWord_cons (c : Char) (rest : Text) : beginsInWord (c :: rest) = isWord c := rfl

@[simp]
theorem endsInWord_nil : endsInWord [] = false := rfl

theorem beginsInWord_append {word : Text} (h : word ≠ []) (back : Text) :
    beginsInWord (word ++ back) = beginsInWord word := by
  cases word with
  | nil => exact absurd rfl h
  | cons c rest => rfl

theorem beginsInWord_append_left {word : Text} (h : beginsInWord word = true) (back : Text) :
    beginsInWord (word ++ back) = true := by
  rwa [beginsInWord_append]
  rintro rfl
  cases h

theorem endsInWord_append (front : Text) {word : Text} (h : word ≠ []) :
    endsInWord (front ++ word) = endsInWord word := by
  rw [endsInWord, endsInWord, List.getLast?_append_of_ne_nil _ h]

/-- What is behind an end that is no word character does not matter. -/
theorem endsInWord_of_suffix {front rest : Text} (h : rest <:+ front)
    (hfront : endsInWord front = false) : endsInWord rest = false := by
  obtain ⟨start, rfl⟩ := h
  by_cases hnil : rest = []
  · rw [hnil]
    rfl
  · rwa [endsInWord_append start hnil] at hfront

theorem beginsInWord_of_prefix {back rest : Text} (h : rest <+: back)
    (hback : beginsInWord back = false) : beginsInWord rest = false := by
  obtain ⟨more, rfl⟩ := h
  by_cases hnil : rest = []
  · rw [hnil]
    rfl
  · rwa [beginsInWord_append hnil more] at hback

/-! ## Whole words -/

/-- The text is a run of one or more word characters. -/
def isRun (text : Text) : Bool :=
  !text.isEmpty && text.all isWord

theorem isRun_iff {text : Text} :
    isRun text = true ↔ text ≠ [] ∧ ∀ c ∈ text, isWord c = true := by
  simp [isRun]

theorem isRun_append_left {run more : Text} (h : isRun run = true)
    (hmore : ∀ c ∈ more, isWord c = true) : isRun (run ++ more) = true := by
  obtain ⟨hne, hrun⟩ := isRun_iff.1 h
  refine isRun_iff.2 ⟨by simp [hne], ?_⟩
  exact List.forall_mem_append.2 ⟨hrun, hmore⟩

/-- The word is a run of word characters between the two other parts of a text, and neither of them
extends it. -/
structure IsWholeWord (front word back : Text) : Prop where
  run : isRun word = true
  front_edge : endsInWord front = false
  back_edge : beginsInWord back = false

theorem beginsInWord_of_isRun {text : Text} (h : isRun text = true) : beginsInWord text = true := by
  obtain ⟨hne, hword⟩ := isRun_iff.1 h
  obtain ⟨c, rest, rfl⟩ := List.exists_cons_of_ne_nil hne
  exact hword c List.mem_cons_self

theorem endsInWord_of_isRun {text : Text} (h : isRun text = true) : endsInWord text = true := by
  obtain ⟨hne, hword⟩ := isRun_iff.1 h
  rw [endsInWord, List.getLast?_eq_some_getLast hne]
  exact hword _ (List.getLast_mem hne)

namespace IsWholeWord

variable {front word back front' word' back' : Text}

theorem ne_nil (h : IsWholeWord front word back) : word ≠ [] :=
  (isRun_iff.1 h.run).1

theorem isWord (h : IsWholeWord front word back) : ∀ c ∈ word, Text.isWord c = true :=
  (isRun_iff.1 h.run).2

/-- A run of word characters that is not extended to the front is the beginning of a word. -/
theorem exists_extension {run : Text} (hrun : isRun run = true) (hfront : endsInWord front = false)
    (back : Text) : ∃ more rest, back = more ++ rest ∧ IsWholeWord front (run ++ more) rest := by
  refine ⟨back.takeWhile Text.isWord, back.dropWhile Text.isWord,
    List.takeWhile_append_dropWhile.symm, ?_, hfront, ?_⟩
  · exact isRun_append_left hrun fun c hc => List.mem_takeWhile_imp hc
  · rw [beginsInWord]
    cases hhead : (back.dropWhile Text.isWord).head? with
    | none => rfl
    | some c =>
      have hstop := List.head?_dropWhile_not Text.isWord back
      rw [hhead] at hstop
      simpa using hstop

/-- Words that begin at the same place end at the same place. -/
theorem eq_of_front_eq (h : IsWholeWord front word back) (h' : IsWholeWord front word' back')
    (htext : word ++ back = word' ++ back') : word = word' ∧ back = back' := by
  -- what one word has more than the other would begin the text behind the shorter one
  have hrest : ∀ {start rest after : Text}, (∀ c ∈ start ++ rest, Text.isWord c = true) →
      beginsInWord (rest ++ after) = false → rest = [] := by
    intro start rest after hword hedge
    by_contra hne
    have hrun : isRun rest = true :=
      isRun_iff.2 ⟨hne, fun c hc => hword c (List.mem_append.2 (Or.inr hc))⟩
    rw [beginsInWord_append hne, beginsInWord_of_isRun hrun] at hedge
    cases hedge
  rcases List.append_eq_append_iff.1 htext with ⟨rest, rfl, rfl⟩ | ⟨rest, rfl, rfl⟩
  · rw [hrest h'.isWord h.back_edge]
    simp
  · rw [hrest h.isWord h'.back_edge]
    simp

/-- Of two words that begin at different places the one has ended before the other begins. -/
theorem apart (h : IsWholeWord front word back) {rest : Text} (hrest : rest ≠ [])
    (h' : IsWholeWord (front ++ rest) word' back') (htext : word ++ back = rest ++ word' ++ back') :
    ∃ gap, rest = word ++ gap ∧ back = gap ++ word' ++ back' := by
  rw [List.append_assoc] at htext
  rcases List.append_eq_append_iff.1 htext with ⟨gap, hgap, hback⟩ | ⟨more, hword, -⟩
  · exact ⟨gap, hgap, by rw [hback, List.append_assoc]⟩
  · have hrun : isRun rest = true :=
      isRun_iff.2 ⟨hrest, fun c hc => h.isWord c (hword ▸ List.mem_append.2 (Or.inl hc))⟩
    have hedge := h'.front_edge
    rw [endsInWord_append front hrest, endsInWord_of_isRun hrun] at hedge
    cases hedge

/-- Two whole words of a text are the same word at the same place, or one stands before the
other. -/
theorem eq_or_apart (h : IsWholeWord front word back) (h' : IsWholeWord front' word' back')
    (htext : front ++ word ++ back = front' ++ word' ++ back') :
    (front = front' ∧ word = word' ∧ back = back') ∨
      (∃ gap, front' = front ++ word ++ gap ∧ back = gap ++ word' ++ back') ∨
      ∃ gap, front = front' ++ word' ++ gap ∧ back' = gap ++ word ++ back := by
  rw [List.append_assoc, List.append_assoc] at htext
  rcases List.append_eq_append_iff.1 htext with ⟨rest, rfl, hrest⟩ | ⟨rest, rfl, hrest⟩
  · by_cases hnil : rest = []
    · subst hnil
      rw [List.append_nil] at h'
      exact Or.inl ⟨(List.append_nil front).symm, h.eq_of_front_eq h' hrest⟩
    · obtain ⟨gap, rfl, hback⟩ := h.apart hnil h' (by rw [hrest, List.append_assoc])
      exact Or.inr (Or.inl ⟨gap, by rw [List.append_assoc], hback⟩)
  · by_cases hnil : rest = []
    · subst hnil
      rw [List.append_nil] at h
      have hsame := h'.eq_of_front_eq h hrest
      exact Or.inl ⟨List.append_nil front', hsame.1.symm, hsame.2.symm⟩
    · obtain ⟨gap, rfl, hback⟩ := h'.apart hnil h (by rw [hrest, List.append_assoc])
      exact Or.inr (Or.inr ⟨gap, by rw [List.append_assoc], hback⟩)

end IsWholeWord

/-! ## Blanks -/

/-- The text has no other characters than blanks. -/
def AllBlank (text : Text) : Prop :=
  ∀ c ∈ text, isBlank c = true

/-- The code points of the blanks. -/
def blankCodes : List Nat :=
  [9, 10, 11, 12, 13, 28, 29, 30, 31, 32, 0x85, 0xA0, 0x1680, 0x2000, 0x2001, 0x2002, 0x2003, 0x2004,
    0x2005, 0x2006, 0x2007, 0x2008, 0x2009, 0x200A, 0x2028, 0x2029, 0x202F, 0x205F, 0x3000]

theorem toNat_mem_blankCodes {c : Char} (h : isBlank c = true) : c.toNat ∈ blankCodes := by
  simp only [isBlank, Bool.or_eq_true, Bool.and_eq_true, decide_eq_true_eq, beq_iff_eq] at h
  simp only [blankCodes, List.mem_cons, List.not_mem_nil, or_false]
  omega

/-- A blank is no word character. -/
theorem isWord_of_isBlank {c : Char} (h : isBlank c = true) : isWord c = false := by
  have hcodes : ∀ code ∈ blankCodes, isWord (Char.ofNat code) = false := by decide +kernel
  have hc := hcodes _ (toNat_mem_blankCodes h)
  rwa [Char.ofNat_toNat] at hc

/-- A word character is no blank. -/
theorem isBlank_of_isWord {c : Char} (h : isWord c = true) : isBlank c = false := by
  by_contra hblank
  rw [isWord_of_isBlank (by simpa using hblank)] at h
  cases h

/-- Between blanks and another text that begins with no word character no word begins. -/
theorem AllBlank.beginsInWord_append {blanks back : Text} (h : AllBlank blanks)
    (hback : beginsInWord back = false) : beginsInWord (blanks ++ back) = false := by
  cases blanks with
  | nil => exact hback
  | cons c rest => exact isWord_of_isBlank (h c List.mem_cons_self)

theorem AllBlank.beginsInWord_eq_false {blanks : Text} (h : AllBlank blanks) (hne : blanks ≠ [])
    (back : Text) : beginsInWord (blanks ++ back) = false := by
  cases blanks with
  | nil => exact absurd rfl hne
  | cons c rest => exact isWord_of_isBlank (h c List.mem_cons_self)

theorem AllBlank.endsInWord_eq_false {blanks : Text} (h : AllBlank blanks) (hne : blanks ≠ [])
    (front : Text) : endsInWord (front ++ blanks) = false := by
  rw [endsInWord_append front hne, endsInWord, List.getLast?_eq_some_getLast hne]
  exact isWord_of_isBlank (h _ (List.getLast_mem hne))

/-! ## Trimming -/

theorem trim_eq (text : Text) : trim text = (text.dropWhile isBlank).rdropWhile isBlank := rfl

/-- A line is its trimmed text between blanks. -/
theorem exists_blanks_around_trim (line : Line) :
    ∃ lead trail, AllBlank lead ∧ AllBlank trail ∧ line = lead ++ trim line ++ trail := by
  refine ⟨line.takeWhile isBlank, (line.dropWhile isBlank).rtakeWhile isBlank, ?_, ?_, ?_⟩
  · exact fun c hc => List.mem_takeWhile_imp hc
  · exact fun c hc => List.mem_rtakeWhile_imp hc
  · rw [trim_eq, List.append_assoc, List.rdropWhile_append_rtakeWhile,
      List.takeWhile_append_dropWhile]

theorem trim_subset (line : Line) : trim line ⊆ line := by
  obtain ⟨lead, trail, -, -, hline⟩ := exists_blanks_around_trim line
  intro c hc
  rw [hline]
  simp [hc]

/-- Dropping from the front stops at a part that begins with no such character. -/
theorem dropWhile_append_of_head {p : Char → Bool} {core : Text} (hne : core ≠ [])
    (hhead : p (core.head hne) = false) (front back : Text) :
    (front ++ (core ++ back)).dropWhile p = front.dropWhile p ++ (core ++ back) := by
  have hstop : (core ++ back).dropWhile p = core ++ back := by
    cases core with
    | nil => exact absurd rfl hne
    | cons c rest => simpa using hhead
  rw [List.dropWhile_append, hstop]
  split_ifs with hall
  · rw [List.isEmpty_iff.1 hall, List.nil_append]
  · rfl

/-- Trimming does not reach past a part that has no blanks at its ends. -/
theorem trim_append {core : Text} (hne : core ≠ []) (hhead : isBlank (core.head hne) = false)
    (hlast : isBlank (core.getLast hne) = false) (front back : Text) :
    trim (front ++ core ++ back) = trimStart front ++ core ++ trimEnd back := by
  have hlast' : isBlank (core.reverse.head (by simpa using hne)) = false := by
    rwa [List.head_reverse]
  have hstart := dropWhile_append_of_head hne hhead front back
  have hend := dropWhile_append_of_head _ hlast' back.reverse (trimStart front).reverse
  calc trim (front ++ core ++ back)
      = trimEnd (trimStart front ++ (core ++ back)) := by
        rw [trim, List.append_assoc, trimStart, hstart, trimStart]
    _ = (back.reverse.dropWhile isBlank ++ (core.reverse ++ (trimStart front).reverse)).reverse := by
        rw [trimEnd, ← hend]
        simp
    _ = trimStart front ++ core ++ trimEnd back := by
        simp [trimEnd]

/-- What trimming leaves begins and ends with no blank. -/
theorem isBlank_ends_trim {line : Line} (hne : trim line ≠ []) :
    isBlank ((trim line).head hne) = false ∧ isBlank ((trim line).getLast hne) = false := by
  constructor
  · obtain ⟨trail, htrail⟩ := List.rdropWhile_prefix isBlank (line.dropWhile isBlank)
    have hhead : (line.dropWhile isBlank).head? = some ((trim line).head hne) := by
      rw [← htrail, ← trim_eq, List.head?_append_of_ne_nil _ hne, List.head?_eq_some_head hne]
    have hstop := List.head?_dropWhile_not isBlank line
    rwa [hhead] at hstop
  · exact Bool.eq_false_of_not_eq_true
      (List.rdropWhile_last_not isBlank (line.dropWhile isBlank) hne)

/-- What trimming leaves has no blanks behind it. -/
theorem eq_nil_of_trim_eq_append {line text blanks : Text} (h : trim line = text ++ blanks)
    (hblanks : AllBlank blanks) : blanks = [] := by
  by_contra hne
  have htrim : trim line ≠ [] := by simp [h, hne]
  have hlast := (isBlank_ends_trim htrim).2
  simp only [h, List.getLast_append_of_ne_nil _ hne] at hlast
  rw [hblanks _ (List.getLast_mem hne)] at hlast
  cases hlast

theorem trimStart_eq_nil {blanks : Text} (h : AllBlank blanks) : trimStart blanks = [] :=
  List.dropWhile_eq_nil_iff.2 h

theorem trimEnd_eq_nil {blanks : Text} (h : AllBlank blanks) : trimEnd blanks = [] :=
  List.rdropWhile_eq_nil_iff.2 h

/-- Blanks at the ends of a line do not matter to what trimming leaves. -/
theorem trim_between_blanks {lead trail : Text} (hlead : AllBlank lead) (htrail : AllBlank trail)
    (line : Line) : trim (lead ++ line ++ trail) = trim line := by
  obtain ⟨before, after, hbefore, hafter, hline⟩ := exists_blanks_around_trim line
  have hfront : AllBlank (lead ++ before) := List.forall_mem_append.2 ⟨hlead, hbefore⟩
  have hback : AllBlank (after ++ trail) := List.forall_mem_append.2 ⟨hafter, htrail⟩
  have htext : lead ++ line ++ trail = lead ++ before ++ trim line ++ (after ++ trail) := by
    conv_lhs => rw [hline]
    simp only [List.append_assoc]
  rw [htext]
  by_cases hne : trim line = []
  · have hall : AllBlank (lead ++ before ++ (after ++ trail)) :=
      List.forall_mem_append.2 ⟨hfront, hback⟩
    rw [hne, List.append_nil, trim, trimStart_eq_nil hall]
    rfl
  · obtain ⟨hhead, hlast⟩ := isBlank_ends_trim hne
    rw [trim_append hne hhead hlast, trimStart_eq_nil hfront, trimEnd_eq_nil hback,
      List.nil_append, List.append_nil]

/-- Trimming cuts no word. -/
theorem IsWholeWord.trim_eq {front word back : Text} (h : IsWholeWord front word back) :
    trim (front ++ word ++ back) = trimStart front ++ word ++ trimEnd back :=
  trim_append h.ne_nil (isBlank_of_isWord (h.isWord _ (List.head_mem h.ne_nil)))
    (isBlank_of_isWord (h.isWord _ (List.getLast_mem h.ne_nil))) front back

/-- A whole word is one in the trimmed line, too. -/
theorem IsWholeWord.trimmed {front word back : Text} (h : IsWholeWord front word back) :
    IsWholeWord (trimStart front) word (trimEnd back) :=
  ⟨h.run, endsInWord_of_suffix (List.dropWhile_suffix _) h.front_edge,
    beginsInWord_of_prefix (List.rdropWhile_prefix isBlank back) h.back_edge⟩

/-! ## Letters in either case -/

/-- The second character may stand for the first one in a word: for a letter in either case, for
anything else only as it is. -/
def standsFor (letter c : Char) : Bool :=
  if letter.isAlpha then sameLetter letter c else c == letter

/-- The text is the word, letters in either case. -/
def Spells (word : String) (text : Text) : Prop :=
  List.Forall₂ (fun letter c => standsFor letter c = true) word.toList text

/-- To spell two words one after another is to spell the first one and then the second. -/
theorem spells_append {first second : String} {text : Text} :
    Spells (first ++ second) text ↔
      ∃ start rest, text = start ++ rest ∧ Spells first start ∧ Spells second rest := by
  simp only [Spells, String.toList_append]
  constructor
  · intro h
    have htake := List.forall₂_take first.toList.length h
    have hdrop := List.forall₂_drop first.toList.length h
    rw [List.take_left] at htake
    rw [List.drop_left] at hdrop
    exact ⟨_, _, (List.take_append_drop first.toList.length text).symm, htake, hdrop⟩
  · rintro ⟨start, rest, rfl, hstart, hrest⟩
    exact List.rel_append hstart hrest

/-- Equal but for the case of a letter means equal, or letters both. -/
theorem eq_or_isAlpha_of_toLower_eq {c d : Char} (h : c.toLower = d.toLower) :
    c = d ∨ c.isAlpha = true ∧ d.isAlpha = true := by
  have halpha : c.isAlpha = d.isAlpha := by
    rw [← Char.isLower_toLower_eq_isAlpha, h, Char.isLower_toLower_eq_isAlpha]
  by_cases hc : c.isAlpha = true
  · exact Or.inr ⟨hc, halpha ▸ hc⟩
  · have hupper : ∀ e : Char, e.isAlpha ≠ true → ¬ e.isUpper = true := by
      intro e he hup
      exact he (by simp [Char.isAlpha, hup])
    rw [Char.toLower_eq_of_not_isUpper (hupper c hc),
      Char.toLower_eq_of_not_isUpper (hupper d (halpha ▸ hc))] at h
    exact Or.inl h

theorem toNat_lt_of_isAlpha {c : Char} (h : c.isAlpha = true) : c.toNat < 128 := by
  simp only [Char.isAlpha, Char.isUpper, Char.isLower, Bool.or_eq_true, Bool.and_eq_true,
    decide_eq_true_eq, ge_iff_le, UInt32.le_iff_toNat_le] at h
  change 65 ≤ c.toNat ∧ c.toNat ≤ 90 ∨ 97 ≤ c.toNat ∧ c.toNat ≤ 122 at h
  omega

theorem isWord_of_isAlpha {c : Char} (h : c.isAlpha = true) : isWord c = true :=
  isWord_of_isAlphanum (toNat_lt_of_isAlpha h) (by simp [Char.isAlphanum, h])

/-- The characters beyond ASCII that stand for an ASCII letter. -/
def lookalikes : List Char :=
  ['\u0130', '\u0131', '\u017F', '\u212A']

theorem isAlpha_of_mem_lookalikes {c : Char} (h : c ∈ lookalikes) : c.isAlpha = false := by
  have hall : lookalikes.all (!·.isAlpha) = true := by decide
  simpa using List.all_eq_true.1 hall c h

theorem isWord_of_mem_lookalikes {c : Char} (h : c ∈ lookalikes) : isWord c = true := by
  have hall : lookalikes.all isWord = true := by decide +kernel
  exact List.all_eq_true.1 hall c h

/-- Among ASCII letters only the case is left open. -/
theorem sameLetter_of_isAlpha {c : Char} (h : c.isAlpha = true) (letter : Char) :
    sameLetter letter c = (c.toLower == lowerChar letter) := by
  have hlook : c ∉ lookalikes := by
    intro hmem
    rw [isAlpha_of_mem_lookalikes hmem] at h
    cases h
  simp only [lookalikes, List.mem_cons, List.not_mem_nil, or_false, not_or] at hlook
  simp [sameLetter, lowerChar, hlook]

/-- Whatever stands for a word character is one. -/
theorem isWord_of_standsFor {letter c : Char} (hletter : isWord letter = true)
    (h : standsFor letter c = true) : isWord c = true := by
  unfold standsFor at h
  split at h
  case isFalse => rwa [← beq_iff_eq.1 h] at hletter
  case isTrue halpha =>
    by_cases hlook : c ∈ lookalikes
    · exact isWord_of_mem_lookalikes hlook
    · have hletter' : letter ≠ '\u212A' := by
        rintro rfl
        cases halpha
      simp only [lookalikes, List.mem_cons, List.not_mem_nil, or_false, not_or] at hlook
      have hlower : c.toLower = letter.toLower := by
        simpa [sameLetter, lowerChar, hlook, hletter'] using h
      rcases eq_or_isAlpha_of_toLower_eq hlower with rfl | ⟨hc, -⟩
      · exact hletter
      · exact isWord_of_isAlpha hc

/-- The case of an ASCII letter does not matter to what it stands for. -/
theorem standsFor_of_toLower_eq {c d : Char} (h : c.toLower = d.toLower) (letter : Char) :
    standsFor letter c = standsFor letter d := by
  rcases eq_or_isAlpha_of_toLower_eq h with rfl | ⟨hc, hd⟩
  · rfl
  · unfold standsFor
    split
    case isTrue => rw [sameLetter_of_isAlpha hc, sameLetter_of_isAlpha hd, h]
    case isFalse hletter =>
      have hne : ∀ {e : Char}, e.isAlpha = true → (e == letter) = false := by
        intro e he
        refine beq_eq_false_iff_ne.2 ?_
        rintro rfl
        exact hletter he
      rw [hne hc, hne hd]

/-- What spells a run of word characters is one. -/
theorem Spells.isRun {word : String} {text : Text} (h : Spells word text)
    (hword : isRun word.toList = true) : isRun text = true := by
  obtain ⟨hne, hletters⟩ := isRun_iff.1 hword
  refine isRun_iff.2 ⟨?_, ?_⟩
  · rintro rfl
    exact hne (List.forall₂_nil_right_iff.1 h)
  · intro c hc
    obtain ⟨n, hn, rfl⟩ := List.getElem_of_mem hc
    have hn' : n < word.toList.length := h.length_eq ▸ hn
    exact isWord_of_standsFor (hletters _ (List.getElem_mem hn')) (h.get hn' hn)

/-- What spells a name that begins with a word character begins with one. -/
theorem Spells.beginsInWord {word : String} {text : Text} (h : Spells word text)
    (hword : Text.beginsInWord word.toList = true) : Text.beginsInWord text = true := by
  rw [Spells] at h
  generalize word.toList = letters at h hword
  cases h with
  | nil => exact hword
  | cons hc _ => exact isWord_of_standsFor hword hc

/-! ## Texts that differ in the case of letters -/

/-- The texts are equal but for the case of their ASCII letters. -/
def SameLetters (text text' : Text) : Prop :=
  text.map Char.toLower = text'.map Char.toLower

instance (text text' : Text) : Decidable (SameLetters text text') :=
  inferInstanceAs (Decidable (text.map Char.toLower = text'.map Char.toLower))

theorem isWord_eq_of_toLower_eq {c d : Char} (h : c.toLower = d.toLower) : isWord c = isWord d := by
  rcases eq_or_isAlpha_of_toLower_eq h with rfl | ⟨hc, hd⟩
  · rfl
  · rw [isWord_of_isAlpha hc, isWord_of_isAlpha hd]

theorem isAlpha_of_isBlank {c : Char} (h : isBlank c = true) : c.isAlpha = false := by
  by_contra halpha
  rw [isBlank_of_isWord (isWord_of_isAlpha (by simpa using halpha))] at h
  cases h

namespace SameLetters

variable {text text' : Text}

theorem symm (h : SameLetters text text') : SameLetters text' text :=
  Eq.symm h

theorem append {rest rest' : Text} (h : SameLetters text text') (hrest : SameLetters rest rest') :
    SameLetters (text ++ rest) (text' ++ rest') := by
  rw [SameLetters, List.map_append, List.map_append, h, hrest]

theorem length_eq (h : SameLetters text text') : text.length = text'.length := by
  simpa using congrArg List.length h

/-- A text splits where the other one does. -/
theorem exists_append {start rest : Text} (h : SameLetters (start ++ rest) text') :
    ∃ start' rest', text' = start' ++ rest' ∧ SameLetters start start' ∧ SameLetters rest rest' := by
  rw [SameLetters, List.map_append, eq_comm, List.map_eq_append_iff] at h
  obtain ⟨start', rest', htext, hstart, hrest⟩ := h
  exact ⟨start', rest', htext, hstart.symm, hrest.symm⟩

/-- Every character of the one text is in the other one, perhaps in the other case. -/
theorem exists_mem (h : SameLetters text text') {c : Char} (hc : c ∈ text) :
    ∃ d ∈ text', d.toLower = c.toLower :=
  List.mem_map.1 (h ▸ List.mem_map_of_mem hc)

/-- Characters that are no letters are the same in both texts. -/
theorem eq_of_forall_not_isAlpha (h : SameLetters text text')
    (htext : ∀ c ∈ text, c.isAlpha = false) : text' = text := by
  induction text generalizing text' with
  | nil => exact List.map_eq_nil_iff.1 h.symm
  | cons c rest ih =>
    obtain ⟨d, rest', rfl, hd, hrest⟩ := List.map_eq_cons_iff.1 h.symm
    obtain ⟨hc, hrest'⟩ := List.forall_mem_cons.1 htext
    rcases eq_or_isAlpha_of_toLower_eq hd with rfl | ⟨-, halpha⟩
    · rw [ih hrest.symm hrest']
    · rw [hc] at halpha
      cases halpha

theorem eq_of_allBlank (h : SameLetters text text') (hblank : AllBlank text) : text' = text :=
  h.eq_of_forall_not_isAlpha fun c hc => isAlpha_of_isBlank (hblank c hc)

theorem newline_not_mem (h : SameLetters text text') (htext : '\n' ∉ text) : '\n' ∉ text' := by
  intro hmem
  obtain ⟨d, hd, hlower⟩ := h.symm.exists_mem hmem
  rcases eq_or_isAlpha_of_toLower_eq hlower with rfl | ⟨-, halpha⟩
  · exact htext hd
  · cases halpha

theorem isRun (h : SameLetters text text') (hrun : Text.isRun text = true) :
    Text.isRun text' = true := by
  obtain ⟨hne, hword⟩ := isRun_iff.1 hrun
  refine isRun_iff.2 ⟨?_, ?_⟩
  · rintro rfl
    exact hne (List.map_eq_nil_iff.1 h)
  · intro c hc
    obtain ⟨d, hd, hlower⟩ := h.symm.exists_mem hc
    rw [← isWord_eq_of_toLower_eq hlower]
    exact hword d hd

theorem beginsInWord_eq (h : SameLetters text text') : beginsInWord text' = beginsInWord text := by
  cases text with
  | nil => rw [List.map_eq_nil_iff.1 h.symm]
  | cons c rest =>
    obtain ⟨d, rest', rfl, hd, -⟩ := List.map_eq_cons_iff.1 h.symm
    exact isWord_eq_of_toLower_eq hd

theorem endsInWord_eq (h : SameLetters text text') : endsInWord text' = endsInWord text := by
  have hreverse : SameLetters text.reverse text'.reverse := by
    rw [SameLetters, List.map_reverse, List.map_reverse, h]
  have hbegins := hreverse.beginsInWord_eq
  rwa [beginsInWord, beginsInWord, List.head?_reverse, List.head?_reverse] at hbegins

/-- Either text spells the words that the other one spells. -/
theorem spells {name : String} (h : SameLetters text text') (hspells : Spells name text) :
    Spells name text' := by
  have hlower : ∀ text : Text, Spells name text ↔
      List.Forall₂ (fun letter c => standsFor letter c = true) name.toList
        (text.map Char.toLower) := by
    intro text
    rw [List.forall₂_map_right_iff, Spells]
    simp only [standsFor_of_toLower_eq (Char.toLower_toLower_eq_toLower _)]
  rwa [hlower, h, ← hlower] at hspells

end SameLetters

/-- The case of letters does not matter to where words begin and end. -/
theorem IsWholeWord.of_sameLetters {front word back front' word' back' : Text}
    (h : IsWholeWord front word back) (hfront : SameLetters front front')
    (hword : SameLetters word word') (hback : SameLetters back back') :
    IsWholeWord front' word' back' :=
  ⟨hword.isRun h.run, hfront.endsInWord_eq.trans h.front_edge,
    hback.beginsInWord_eq.trans h.back_edge⟩

end Text
end BranchFold
