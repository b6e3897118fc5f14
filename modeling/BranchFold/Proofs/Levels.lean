import BranchFold.Proofs.Matching

/-!
# Levels of blocks

The level of a block is the indentation that its closing line leaves, while its first line comes
from the stack.  The two belong together as long as every fall of the indentation is exact: it
returns to the indentation of the last line that lies outside the block it closes.  This module
proves that law for every block in which all falls are exact, and shows a document with other falls
in which it is broken.  In a document in which all falls are exact, the blocks are the true bodies
of the text: each begins with a rise and ends before the first line that is indented less.

Main definitions:

- {lit}`Document.IsExactAt`, {lit}`Document.IsExact`: falls that return to the indentation outside.
- {lit}`Block.HasClosingLevel`: what the level of every block is.
- {lit}`Block.KeepsLevel`: the level is that of the first line, and no line is indented less.
- {lit}`Document.IsBody`: a rise and the lines up to the first that is indented less.

Main results:

- Theorem {lit}`Document.OpenAt.keeps_level`: after exact falls the innermost open block is at the
  level of its first line.
- Theorem {lit}`Document.block_level_law`: the level of a block, in general and after exact falls.
- Theorem {lit}`Document.exact_blocks_are_bodies`: the blocks of a document with exact falls.
-/

namespace BranchFold
namespace Document

variable {document : Document} {number : Nat}

/-! ## Steps as changes of level -/

/-- Behind a significant line the level is its indentation. -/
theorem levelBefore_succ_of_isSignificant {line : Line} (hline : document[number]? = some line)
    (hsignificant : isSignificant line = true) :
    document.levelBefore (number + 1) = Text.indent line := by
  rw [levelBefore_succ hline, if_pos hsignificant]

/-- The step of a line leads from the level before it to the level behind it. -/
theorem turn?_eq_stepTo? (document : Document) (number : Nat) :
    document.turn? number =
      stepTo? (document.levelBefore number) (document.levelBefore (number + 1)) := by
  by_cases hlt : number < document.length
  · have hline : document[number]? = some document[number] := List.getElem?_eq_getElem hlt
    rw [turn?_of_line hline, levelBefore_succ hline]
    split_ifs
    · rfl
    · simp [stepTo?]
  · have hnone : document[number]? = none := List.getElem?_eq_none (by omega)
    rw [levelBefore_succ_of_length_le (by omega)]
    simp [turn?, hnone, stepTo?]

/-- A line makes a step up exactly if the level is higher behind it. -/
theorem turn?_eq_up_iff :
    document.turn? number = some .U ↔
      document.levelBefore number < document.levelBefore (number + 1) := by
  rw [turn?_eq_stepTo?, stepTo?]
  split_ifs <;> simp_all

/-- A line makes a step down exactly if the level is lower behind it. -/
theorem turn?_eq_down_iff :
    document.turn? number = some .D ↔
      document.levelBefore (number + 1) < document.levelBefore number := by
  rw [turn?_eq_stepTo?, stepTo?]
  split_ifs <;> simp_all
  omega

/-- A line makes no step exactly if the level stays. -/
theorem turn?_eq_none_iff :
    document.turn? number = none ↔
      document.levelBefore (number + 1) = document.levelBefore number := by
  rw [turn?_eq_stepTo?, stepTo?]
  split_ifs <;> simp_all <;> omega

/-- A line that makes a step is a significant line of the document. -/
theorem exists_line_of_turn? {step : DyckStep} (h : document.turn? number = some step) :
    ∃ line, document[number]? = some line ∧ isSignificant line = true := by
  have hlt := lt_length_of_turn? h
  have hline : document[number]? = some document[number] := List.getElem?_eq_getElem hlt
  refine ⟨_, hline, ?_⟩
  rw [turn?_of_line hline] at h
  by_contra hskip
  simp [hskip] at h

/-- Where no significant line is indented less than a bound, the level does not fall below it. -/
theorem le_levelBefore_of_lines {first stop bound : Nat}
    (hfirst : bound ≤ document.levelBefore (first + 1))
    (hlines : ∀ number line, first < number → number < stop → document[number]? = some line →
      isSignificant line = true → bound ≤ Text.indent line)
    (hnumber : first < number) (hstop : number ≤ stop) :
    bound ≤ document.levelBefore number := by
  induction number, hnumber using Nat.le_induction with
  | base => exact hfirst
  | succ number hlt ih =>
    have hbefore := ih (by omega)
    by_cases hlength : number < document.length
    · have hline : document[number]? = some document[number] := List.getElem?_eq_getElem hlength
      rw [levelBefore_succ hline]
      split_ifs with hsignificant
      · exact hlines number _ (by omega) (by omega) hline hsignificant
      · exact hbefore
    · rw [levelBefore_succ_of_length_le (by omega)]
      exact hbefore

/-! ## Open rises around one another -/

/-- Of two open rises the one at greater depth came first. -/
theorem OpenAt.lt_of_depth_lt {first inner depth shallow : Nat}
    (h : document.OpenAt number first depth) (hinner : document.OpenAt number inner shallow)
    (hdepth : shallow < depth) : first < inner := by
  by_contra hle
  have hcount := h.climbs.count_eq
  have hcount' := hinner.climbs.count_eq
  rcases Nat.eq_or_lt_of_le (Nat.le_of_not_lt hle) with rfl | hlt
  · omega
  · -- The word from the earlier rise is that from the later one with at least one more step up.
    have hstart := hinner.climbs.count_le_of_start
      (turnsBetween_mono document hlt (Nat.le_of_lt h.lt))
    rw [turnsBetween_split document hlt h.lt, h.up] at hcount'
    simp at hcount'
    omega

/-- Around an open rise there is an innermost one, before which the first is one less deep. -/
theorem OpenAt.exists_innermost {first depth : Nat}
    (h : document.OpenAt number first (depth + 1)) :
    ∃ inner, first < inner ∧ document.OpenAt number inner 0 ∧
      document.OpenAt inner first depth := by
  have hdeep := (openedBefore_getElem?_eq_some_iff document number first (depth + 1)).2 h
  have hlength := (List.getElem?_eq_some_iff.1 hdeep).1
  have htop : (document.openedBefore number)[0]? = some (document.openedBefore number)[0] :=
    List.getElem?_eq_getElem (by omega)
  have hinner := (openedBefore_getElem?_eq_some_iff document number _ 0).1 htop
  have hlt := h.lt_of_depth_lt hinner (by omega)
  refine ⟨_, hlt, hinner, hlt, h.up, ?_⟩
  have hcount := h.climbs.count_eq
  have hcount' := hinner.climbs.count_eq
  rw [turnsBetween_split document hlt hinner.lt, hinner.up] at hcount
  refine ⟨by simp at hcount; omega, ?_⟩
  intro start hstart
  refine h.climbs.count_le_of_start (List.IsPrefix.trans ?_
    (turnsBetween_mono document hlt (Nat.le_of_lt hinner.lt)))
  exact (List.mem_inits _ _).1 hstart

/-! ## Exact falls -/

/-- The indentation of the last significant line that is indented less than the bound; zero if there
is none. -/
def lastIndentBelow (document : Document) (bound : Nat) : Nat :=
  ((document.filter fun line =>
    isSignificant line && decide (Text.indent line < bound)).getLast?.map Text.indent).getD 0

/-- If the line is a fall, it returns to the indentation of the last line before it that is indented
less than the line from which it falls. -/
def IsExactAt (document : Document) (number : Nat) : Prop :=
  ∀ line ∈ document[number]?, isSignificant line = true →
    Text.indent line < document.levelBefore number →
      Text.indent line = lastIndentBelow (document.take number) (document.levelBefore number)

/-- Every fall of the document is exact. -/
def IsExact (document : Document) : Prop :=
  ∀ number < document.length, document.IsExactAt number

instance (document : Document) (number : Nat) : Decidable (document.IsExactAt number) :=
  inferInstanceAs (Decidable (∀ line ∈ document[number]?, _ → _ → _))

instance (document : Document) : Decidable document.IsExact :=
  inferInstanceAs (Decidable (∀ number < document.length, document.IsExactAt number))

/-- Behind the last line of the document there is no fall. -/
theorem IsExact.isExactAt (h : document.IsExact) (number : Nat) : document.IsExactAt number := by
  intro line hline
  exact h number (List.getElem?_eq_some_iff.1 hline).1 line hline

/-- One more line is the last below the bound, or it changes nothing. -/
theorem lastIndentBelow_concat (document : Document) (line : Line) (bound : Nat) :
    lastIndentBelow (document ++ [line]) bound =
      if isSignificant line = true ∧ Text.indent line < bound then Text.indent line
      else lastIndentBelow document bound := by
  by_cases hline : isSignificant line = true ∧ Text.indent line < bound
  · simp [lastIndentBelow, List.filter_append, hline.1, hline.2]
  · have hkeep : (isSignificant line && decide (Text.indent line < bound)) = false := by
      simpa using hline
    rw [if_neg hline]
    simp [lastIndentBelow, List.filter_append, hkeep]

/-- A level below the bound is that of the last line below the bound. -/
theorem lastIndentBelow_of_level_lt {document : Document} {bound : Nat}
    (h : level document < bound) : lastIndentBelow document bound = level document := by
  induction document using List.reverseRecOn with
  | nil => rfl
  | append_singleton document line ih =>
    rw [lastIndentBelow_concat]
    rw [level_concat] at h ⊢
    by_cases hsignificant : isSignificant line = true
    · rw [if_pos hsignificant] at h ⊢
      rw [if_pos ⟨hsignificant, h⟩]
    · rw [if_neg hsignificant] at h ⊢
      rw [if_neg (fun hboth => hsignificant hboth.1), ih h]

/-- If the level has not been below the bound since a line, the last indentation below the bound is
the level before that line. -/
theorem lastIndentBelow_take {first bound : Nat} (hfirst : document.levelBefore first < bound)
    (hsince : ∀ between, first < between → between ≤ number → bound ≤ document.levelBefore between)
    (hle : first ≤ number) :
    lastIndentBelow (document.take number) bound = document.levelBefore first := by
  induction number, hle using Nat.le_induction with
  | base => exact lastIndentBelow_of_level_lt hfirst
  | succ number hle ih =>
    have hbefore := ih fun between hlt hle => hsince between hlt (by omega)
    by_cases hlength : number < document.length
    · have hline : document[number]? = some document[number] := List.getElem?_eq_getElem hlength
      have hbehind := hsince (number + 1) (by omega) le_rfl
      rw [List.take_add_one, hline, Option.toList_some, lastIndentBelow_concat, if_neg, hbefore]
      intro hboth
      rw [levelBefore_succ_of_isSignificant hline hboth.1] at hbehind
      omega
    · rw [List.take_of_length_le (by omega)]
      rwa [List.take_of_length_le (by omega)] at hbefore

/-- An exact fall returns to the level before the rise that it closes, provided that the level has
been at least that of the rise since. -/
theorem IsExactAt.levelBefore_succ_eq {first : Nat} (h : document.IsExactAt number)
    (hlt : first < number) (hup : document.turn? first = some .U)
    (hdown : document.turn? number = some .D)
    (hlevel : document.levelBefore number = document.levelBefore (first + 1))
    (hsince : ∀ between, first < between → between ≤ number →
      document.levelBefore (first + 1) ≤ document.levelBefore between) :
    document.levelBefore (number + 1) = document.levelBefore first := by
  rcases exists_line_of_turn? hdown with ⟨line, hline, hsignificant⟩
  have hbehind := levelBefore_succ_of_isSignificant hline hsignificant
  have hfall := turn?_eq_down_iff.1 hdown
  rw [hbehind] at hfall ⊢
  rw [h line hline hsignificant hfall, hlevel]
  exact lastIndentBelow_take (turn?_eq_up_iff.1 hup) hsince (by omega)

/-- After exact falls the innermost open rise is at the level of its own line, and no line since has
been below that level. -/
theorem OpenAt.keeps_level {first : Nat} (h : document.OpenAt number first 0)
    (hexact : ∀ between, first < between → between < number → document.IsExactAt between) :
    document.levelBefore number = document.levelBefore (first + 1) ∧
      ∀ between, first < between → between ≤ number →
        document.levelBefore (first + 1) ≤ document.levelBefore between := by
  -- By strong induction: a fall on the last line closes a rise inside, before which the rise at
  -- hand was innermost, too.
  induction number using Nat.strong_induction_on generalizing first with
  | _ number ih =>
    obtain ⟨last, rfl⟩ : ∃ last, number = last + 1 :=
      Nat.exists_eq_succ_of_ne_zero (Nat.ne_zero_of_lt h.lt)
    have hthrough {bound : Nat} (hlast : bound ≤ document.levelBefore (last + 1))
        (hbefore : ∀ between, first < between → between ≤ last →
          bound ≤ document.levelBefore between) :
        ∀ between, first < between → between ≤ last + 1 →
          bound ≤ document.levelBefore between := by
      intro between hlt hle
      rcases Nat.le_succ_iff.1 hle with hbetween | rfl
      · exact hbefore between hlt hbetween
      · exact hlast
    rcases hturn : document.turn? last with _ | step
    · rw [openAt_succ_of_none hturn] at h
      rcases ih last (by omega) h fun between hlt hle => hexact between hlt (by omega) with
        ⟨hlevel, hsince⟩
      rw [turn?_eq_none_iff] at hturn
      exact ⟨hturn.trans hlevel, hthrough (by omega) hsince⟩
    · cases step with
      | U =>
        rw [openAt_succ_zero_of_up hturn] at h
        subst h
        exact ⟨rfl, hthrough le_rfl fun between hlt hle => absurd hlt (by omega)⟩
      | D =>
        rw [openAt_succ_of_down hturn] at h
        rcases h.exists_innermost with ⟨inner, hlt, hinner, houter⟩
        have hinnerlt := hinner.lt
        rcases ih last (by omega) hinner fun between hlt' hle => hexact between (by omega)
          (by omega) with ⟨hinnerlevel, hinnersince⟩
        rcases ih inner (by omega) houter fun between hlt' hle => hexact between hlt'
          (by omega) with ⟨houterlevel, houtersince⟩
        have hreturn := (hexact last h.lt (by omega)).levelBefore_succ_eq hinnerlt hinner.up hturn
          hinnerlevel hinnersince
        have hrise := turn?_eq_up_iff.1 hinner.up
        refine ⟨hreturn.trans houterlevel, hthrough (by omega) ?_⟩
        intro between hlt' hle
        rcases Nat.lt_or_ge inner between with hinside | houtside
        · have := hinnersince between hinside hle
          omega
        · exact houtersince between hlt' houtside

/-! ## The level of a block -/

/-- Behind a significant line the level is that of the last significant line since. -/
theorem exists_last_significant {first : Nat} {line : Line} (hline : document[first]? = some line)
    (hsignificant : isSignificant line = true) (hlt : first < number) :
    ∃ last line, first ≤ last ∧ last < number ∧ document[last]? = some line ∧
      isSignificant line = true ∧ document.levelBefore number = Text.indent line ∧
      ∀ later line, last < later → later < number → document[later]? = some line →
        isSignificant line = false := by
  induction number, hlt using Nat.le_induction with
  | base =>
    refine ⟨first, line, le_rfl, by omega, hline, hsignificant,
      levelBefore_succ_of_isSignificant hline hsignificant, ?_⟩
    intro later _ hlater hstop
    omega
  | succ number hlt ih =>
    rcases ih with ⟨last, lastLine, hfirst, hlast, hlastLine, hlastSignificant, hlevel, hlater⟩
    by_cases hturned : ∃ line, document[number]? = some line ∧ isSignificant line = true
    · rcases hturned with ⟨line', hline', hsignificant'⟩
      refine ⟨number, line', by omega, by omega, hline', hsignificant',
        levelBefore_succ_of_isSignificant hline' hsignificant', ?_⟩
      intro later _ hlater' hstop
      omega
    · have hskip : ∀ line, document[number]? = some line → isSignificant line = false := by
        intro line' hline'
        by_contra hne
        exact hturned ⟨line', hline', by simpa using hne⟩
      have hstays : document.levelBefore (number + 1) = document.levelBefore number := by
        by_contra hne
        rcases Option.ne_none_iff_exists'.1 (mt turn?_eq_none_iff.1 hne) with ⟨step, hstep⟩
        exact hturned (exists_line_of_turn? hstep)
      refine ⟨last, lastLine, hfirst, by omega, hlastLine, hlastSignificant,
        hstays.trans hlevel, ?_⟩
      intro later line' hlater' hstop hline'
      rcases Nat.lt_succ_iff_lt_or_eq.1 hstop with hbefore | rfl
      · exact hlater later line' hlater' hbefore hline'
      · exact hskip line' hline'

end Document

/-- What holds of every block: it begins with a rise, its level is the indentation of its last
significant line, and the line behind it is indented less. -/
structure Block.HasClosingLevel (block : Block) (document : Document) : Prop where
  rises : ∃ line, document.line? block.first = some line ∧
    Document.isSignificant line = true ∧ document.levelBefore block.first.toNat < Text.indent line
  last_line : ∃ (last : Nat) (line : Line), block.first ≤ last ∧ last ≤ block.last ∧
    document[last]? = some line ∧ Document.isSignificant line = true ∧
    block.indent = Text.indent line ∧
    ∀ (later : Nat) (line : Line), last < later → later ≤ block.last →
      document[later]? = some line → Document.isSignificant line = false
  falls : ∃ line, document.line? (block.last + 1) = some line ∧
    Document.isSignificant line = true ∧ Text.indent line < block.indent

/-- The level of the block is the indentation of its first line, none of its significant lines is
indented less, and the last significant line before the block is. -/
structure Block.KeepsLevel (block : Block) (document : Document) : Prop where
  first_line : ∃ line, document.line? block.first = some line ∧ block.indent = Text.indent line
  lines : ∀ (number : Nat) (line : Line), block.first ≤ number → number ≤ block.last →
    document[number]? = some line → Document.isSignificant line = true →
      block.indent ≤ Text.indent line
  before : document.levelBefore block.first.toNat < block.indent

namespace Document

variable {document : Document}

/-- A matched pair gives a block at the level of its last significant line. -/
theorem Matches.hasClosingLevel {first last : Nat} (h : document.Matches first (last + 1)) :
    Block.HasClosingLevel ⟨first, last, document.levelBefore (last + 1)⟩ document := by
  rcases exists_line_of_turn? h.up with ⟨line, hline, hsignificant⟩
  rcases exists_line_of_turn? h.down with ⟨line', hline', hsignificant'⟩
  have hrise := turn?_eq_up_iff.1 h.up
  have hfall := turn?_eq_down_iff.1 h.down
  rw [levelBefore_succ_of_isSignificant hline hsignificant] at hrise
  rw [levelBefore_succ_of_isSignificant hline' hsignificant'] at hfall
  rcases exists_last_significant hline hsignificant h.lt with
    ⟨final, finalLine, hfirst, hlast, hfinal, hfinalSignificant, hlevel, hlater⟩
  refine ⟨⟨line, by simpa using hline, hsignificant, by simpa using hrise⟩, ?_, ?_⟩
  · refine ⟨final, finalLine, by simpa using hfirst, by simpa using Nat.lt_succ_iff.1 hlast, hfinal,
      hfinalSignificant, by simpa using hlevel, ?_⟩
    intro later line'' hgt hle
    exact hlater later line'' hgt (by dsimp only at hle; omega)
  · refine ⟨line', ?_, hsignificant', by simpa using hfall⟩
    exact (line?_natCast document (last + 1)).trans hline'

/-- A matched pair between which all falls are exact gives a block that keeps its level. -/
theorem Matches.keepsLevel {first last : Nat} (h : document.Matches first (last + 1))
    (hexact : ∀ between, first < between → between ≤ last → document.IsExactAt between) :
    Block.KeepsLevel ⟨first, last, document.levelBefore (last + 1)⟩ document := by
  have hopen : document.OpenAt (last + 1) first 0 :=
    ⟨h.lt, h.up, (climbs_zero_iff _).2 h.balanced⟩
  rcases hopen.keeps_level fun between hlt hle => hexact between hlt (by omega) with
    ⟨hlevel, hsince⟩
  rcases exists_line_of_turn? h.up with ⟨line, hline, hsignificant⟩
  have hrise := turn?_eq_up_iff.1 h.up
  refine ⟨⟨line, by simpa using hline, ?_⟩, ?_, ?_⟩
  · rw [hlevel, levelBefore_succ_of_isSignificant hline hsignificant]
  · intro number line' hfirst hlast hline' hsignificant'
    have hkept := hsince (number + 1) (by dsimp only at hfirst; omega)
      (by dsimp only at hlast; omega)
    rw [levelBefore_succ_of_isSignificant hline' hsignificant'] at hkept
    dsimp only
    omega
  · dsimp only [Int.toNat_natCast]
    omega

/--
The level of a block.  In every document it is the indentation of the last significant line of the
block; the block begins with a rise, and the line behind it is indented less than its level.  If all
falls inside the block are exact, the level is also the indentation of its first line, no line of
the block is indented less, and the last line before the block is.
-/
theorem block_level_law (document : Document) (block : Block) (h : block ∈ document.blocks) :
    block.HasClosingLevel document ∧
      ((∀ number : Nat, block.first < number → number ≤ block.last → document.IsExactAt number) →
        block.KeepsLevel document) := by
  rcases mem_blocks_iff.1 h with ⟨first, last, hmatches, rfl⟩
  refine ⟨hmatches.hasClosingLevel, fun hexact => hmatches.keepsLevel ?_⟩
  intro between hlt hle
  exact hexact between (by simpa using hlt) (by simpa using hle)

/-- A fall that is not exact does not disturb the blocks inside it. -/
theorem block_level_law_inside_inexact_fall :
    let document : Document := ["a", "  b", "      c", "        d", "      e", "    f", "g"].map
      String.toList
    ¬ document.IsExact ∧ (⟨2, 4, 6⟩ : Block) ∈ document.blocks ∧
      Block.KeepsLevel ⟨2, 4, 6⟩ document := by
  refine ⟨by decide, by decide, (block_level_law _ ⟨2, 4, 6⟩ (by decide)).2 ?_⟩
  intro number hfirst hlast
  obtain rfl | rfl : number = 3 ∨ number = 4 := by
    dsimp only at hfirst hlast
    omega
  · decide
  · decide

/-- A block behind falls that span several levels: its level is not the indentation of its first
line, one of its lines is indented less, and the line before it is not. -/
theorem level_law_fails_after_deep_falls :
    let document : Document := ["a", "  b", "    c", "      d", "e", "    f", "  g", "h"].map
      String.toList
    let block : Block := ⟨2, 6, 2⟩
    block ∈ document.blocks ∧
    (document.line? block.first = some "    c".toList ∧
      block.indent ≠ Text.indent "    c".toList) ∧
    (document[4]? = some "e".toList ∧ block.first ≤ 4 ∧ 4 ≤ block.last ∧
      isSignificant "e".toList = true ∧ ¬ block.indent ≤ Text.indent "e".toList) ∧
    ¬ document.levelBefore block.first.toNat < block.indent ∧
    ¬ block.KeepsLevel document :=
  ⟨by decide, by decide, by decide, by decide, fun h => absurd h.before (by decide)⟩

/-! ## Bodies -/

/-- The lines from the first to the last are the body under a level: the first line rises to it, and
the line behind the last is the first that is indented less. -/
structure IsBody (document : Document) (first last level : Nat) : Prop where
  rises : ∃ line, document[first]? = some line ∧ isSignificant line = true ∧
    Text.indent line = level ∧ document.levelBefore first < level
  first_le_last : first ≤ last
  keeps : ∀ number line, first < number → number ≤ last → document[number]? = some line →
    isSignificant line = true → level ≤ Text.indent line
  falls : ∃ line, document[last + 1]? = some line ∧ isSignificant line = true ∧
    Text.indent line < level

/-- A rise stays open as long as no line is indented less than it, if all falls are exact. -/
theorem exists_openAt_of_keeps {first stop : Nat} (hexact : document.IsExact)
    (hup : document.turn? first = some .U)
    (hsince : ∀ between, first < between → between ≤ stop →
      document.levelBefore (first + 1) ≤ document.levelBefore between) (hlt : first < stop) :
    ∃ depth, document.OpenAt stop first depth := by
  induction stop, hlt using Nat.le_induction with
  | base => exact ⟨0, (openAt_succ_zero_of_up hup).2 rfl⟩
  | succ stop hlt ih =>
    rcases ih fun between hgt hle => hsince between hgt (by omega) with ⟨depth, hopen⟩
    rcases hturn : document.turn? stop with _ | step
    · exact ⟨depth, (openAt_succ_of_none hturn).2 hopen⟩
    · cases step with
      | U => exact ⟨depth + 1, (openAt_succ_succ_of_up hturn).2 hopen⟩
      | D =>
        cases depth with
        | succ depth => exact ⟨depth, (openAt_succ_of_down hturn).2 hopen⟩
        | zero =>
          -- Only a fall below the level of the rise can close it.
          have hkept := (hopen.keeps_level fun between hgt hle => hexact.isExactAt between).1
          have hbehind := hsince (stop + 1) (by omega) le_rfl
          have hfall := turn?_eq_down_iff.1 hturn
          omega

/-- With exact falls, every matched pair encloses a body. -/
theorem Matches.isBody {first last : Nat} (h : document.Matches first (last + 1))
    (hexact : document.IsExact) :
    document.IsBody first last (document.levelBefore (last + 1)) := by
  rcases h.hasClosingLevel.falls with ⟨closing, hclosing, hsignificant, hfall⟩
  have hkeeps := h.keepsLevel fun between _ _ => hexact.isExactAt between
  rcases exists_line_of_turn? h.up with ⟨line, hline, hlineSignificant⟩
  rcases hkeeps.first_line with ⟨line', hline', hlevel⟩
  have hsame : line' = line := by
    rw [line?_natCast, hline, Option.some.injEq] at hline'
    exact hline'.symm
  subst hsame
  have hlt := h.lt
  refine ⟨⟨line', hline, hlineSignificant, ?_, ?_⟩, by omega, ?_, ⟨closing, ?_, hsignificant, ?_⟩⟩
  · dsimp only at hlevel
    omega
  · simpa using hkeeps.before
  · intro number line'' hfirst hlast hline'' hsignificant''
    have hkept := hkeeps.lines number line'' (by dsimp only; omega) (by dsimp only; omega) hline''
      hsignificant''
    dsimp only at hkept
    omega
  · rw [← line?_natCast]
    exact hclosing
  · simpa using hfall

/-- With exact falls, the lines around every body are a matched pair. -/
theorem IsBody.matches {first last level : Nat} (h : document.IsBody first last level)
    (hexact : document.IsExact) :
    document.Matches first (last + 1) ∧ document.levelBefore (last + 1) = level := by
  rcases h.rises with ⟨line, hline, hsignificant, hindent, hbefore⟩
  rcases h.falls with ⟨closing, hclosing, hclosingSignificant, hclosingIndent⟩
  have hlt := h.first_le_last
  have hlevel : document.levelBefore (first + 1) = level :=
    (levelBefore_succ_of_isSignificant hline hsignificant).trans hindent
  have hbehind := levelBefore_succ_of_isSignificant hclosing hclosingSignificant
  have hup : document.turn? first = some .U := turn?_eq_up_iff.2 (by omega)
  have hlines : ∀ number line, first < number → number < last + 1 →
      document[number]? = some line → isSignificant line = true → level ≤ Text.indent line :=
    fun number line hfirst hlast => h.keeps number line hfirst (Nat.lt_succ_iff.1 hlast)
  have hsince : ∀ between, first < between → between ≤ last + 1 →
      document.levelBefore (first + 1) ≤ document.levelBefore between := by
    intro between hgt hle
    rw [hlevel]
    exact le_levelBefore_of_lines hlevel.ge hlines hgt hle
  have hdown : document.turn? (last + 1) = some .D := by
    have hkept := hsince (last + 1) (by omega) le_rfl
    exact turn?_eq_down_iff.2 (by omega)
  rcases exists_openAt_of_keeps hexact hup hsince (by omega) with ⟨depth, hopen⟩
  cases depth with
  | zero =>
    have hkept := (hopen.keeps_level fun between _ _ => hexact.isExactAt between).1
    exact ⟨⟨hopen.lt, hup, hdown, (climbs_zero_iff _).1 hopen.climbs⟩, hkept.trans hlevel⟩
  | succ depth =>
    -- A rise inside would take the fall, which then could not lead below the level of the first.
    rcases hopen.exists_innermost with ⟨inner, hinside, hinner, -⟩
    rcases hinner.keeps_level fun between _ _ => hexact.isExactAt between with
      ⟨hinnerlevel, hinnersince⟩
    have hreturn := (hexact.isExactAt (last + 1)).levelBefore_succ_eq hinner.lt hinner.up hdown
      hinnerlevel hinnersince
    have hkept := hsince inner hinside (Nat.le_of_lt hinner.lt)
    omega

/-- With exact falls, the blocks are the bodies. -/
theorem mem_blocks_iff_of_isExact {block : Block} (hexact : document.IsExact) :
    block ∈ document.blocks ↔
      ∃ first last level : Nat,
        document.IsBody first last level ∧ block = ⟨first, last, level⟩ := by
  rw [mem_blocks_iff]
  constructor
  · intro hgiven
    rcases hgiven with ⟨first, last, hmatches, rfl⟩
    exact ⟨first, last, _, hmatches.isBody hexact, rfl⟩
  · intro hgiven
    rcases hgiven with ⟨first, last, level, hbody, rfl⟩
    rcases hbody.matches hexact with ⟨hmatches, rfl⟩
    exact ⟨first, last, hmatches, rfl⟩

/--
In a document in which all falls are exact, the blocks are the true bodies of the text.  Every body
is listed once, bodies come by strictly increasing end, and a rise under which no body ends gives no
block.
-/
theorem exact_blocks_are_bodies (document : Document) (hexact : document.IsExact) :
    (∀ block : Block, block ∈ document.blocks ↔
      ∃ first last level : Nat, document.IsBody first last level ∧ block = ⟨first, last, level⟩) ∧
    document.blocks.Nodup ∧
    (document.blocks.Pairwise fun earlier later => earlier.last < later.last) ∧
    ∀ first : Nat, (∀ last level, ¬ document.IsBody first last level) →
      ∀ block ∈ document.blocks, block.first ≠ first := by
  refine ⟨fun block => mem_blocks_iff_of_isExact hexact, blocks_nodup document,
    blocks_pairwise_last_lt document, ?_⟩
  intro first hnone block hblock hfirst
  rcases (mem_blocks_iff_of_isExact hexact).1 hblock with ⟨first', last, level, hbody, rfl⟩
  obtain rfl : first' = first := by simpa using hfirst
  exact hnone last level hbody

/-- Falls by one level each are exact, with comments and blank lines between them. -/
theorem exact_blocks_of_nested_bodies :
    let document : Document := ["a", "  b", "      c", "// x", "", "  d", "    e", "  f", "g"].map
      String.toList
    document.IsExact ∧ document.blocks = [⟨2, 4, 6⟩, ⟨6, 6, 4⟩, ⟨1, 7, 2⟩] ∧
      ∀ block ∈ document.blocks, ∃ first last level : Nat,
        document.IsBody first last level ∧ block = ⟨first, last, level⟩ := by
  refine ⟨by decide, by decide, fun block hblock => ?_⟩
  exact ((exact_blocks_are_bodies _ (by decide)).1 block).1 hblock

end Document
end BranchFold
