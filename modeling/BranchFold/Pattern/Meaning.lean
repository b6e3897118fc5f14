import BranchFold.Pattern.Search

/-!
# What a search finds

A search answers yes exactly when the pattern covers some stretch of the text.

Main results:

- Theorems {lit}`spans_one`, {lit}`spans_andThen`, {lit}`spans_either` and {lit}`spans_many` read
  the stretches of a pattern off those of its parts.
- Theorem {lit}`coversEmpty_iff`: the test for the empty stretch is exact.
- Theorems {lit}`spans_of_mem_remainders` and {lit}`exists_mem_remainders`: what is left after one
  character covers exactly the rest of each stretch that is not empty.
- Theorem {lit}`occursIn_iff`: the search is exact.
-/

namespace BranchFold

/-! ## Places in one text -/

namespace Cursor

/-- Places in one text with equally many characters before them are the same place. -/
theorem eq_of_length_eq {x y : Cursor} (htext : x.text = y.text)
    (hlength : x.before.length = y.before.length) : x = y := by
  obtain ⟨xbefore, xafter⟩ := x
  obtain ⟨ybefore, yafter⟩ := y
  have hparts := List.append_inj htext (by simpa using hlength)
  have hbefore : xbefore = ybefore := by simpa using congrArg List.reverse hparts.1
  have hafter : xafter = yafter := hparts.2
  rw [hbefore, hafter]

/-- No place of a text lies behind its end. -/
theorem length_before_le {x : Cursor} : x.before.length ≤ x.text.length := by
  simp [text]

end Cursor

namespace Pattern

/-! ## Stretches by shape of the pattern -/

@[simp]
theorem spans_nothing {x y : Cursor} : Spans nothing x y ↔ x = y := by
  constructor
  · intro h
    cases h
    rfl
  · rintro rfl
    exact .nothing x

@[simp]
theorem not_spans_never {x y : Cursor} : ¬ Spans never x y := by
  intro h
  cases h

/-- A single character is covered when the class holds it. -/
theorem spans_one {accepted : CharClass} {x y : Cursor} :
    Spans (one accepted) x y ↔
      ∃ before c after, x = ⟨before, c :: after⟩ ∧ y = ⟨c :: before, after⟩ ∧
        accepted.holds c = true := by
  constructor
  · intro h
    cases h with
    | one before after hholds => exact ⟨before, _, after, rfl, rfl, hholds⟩
  · rintro ⟨before, c, after, rfl, rfl, hholds⟩
    exact .one before after hholds

/-- A condition covers the empty stretch where it is met. -/
theorem spans_place {condition : Condition} {x y : Cursor} :
    Spans (place condition) x y ↔ x = y ∧ condition.met x = true := by
  constructor
  · intro h
    cases h with
    | place hmet => exact ⟨rfl, hmet⟩
  · rintro ⟨rfl, hmet⟩
    exact .place hmet

/-- A sequence covers a stretch of the first part and then one of the second. -/
theorem spans_andThen {p q : Pattern} {x z : Cursor} :
    Spans (andThen p q) x z ↔ ∃ y, Spans p x y ∧ Spans q y z := by
  constructor
  · intro h
    cases h with
    | andThen hp hq => exact ⟨_, hp, hq⟩
  · rintro ⟨y, hp, hq⟩
    exact .andThen hp hq

/-- A choice covers the stretches of both its parts. -/
theorem spans_either {p q : Pattern} {x y : Cursor} :
    Spans (either p q) x y ↔ Spans p x y ∨ Spans q x y := by
  constructor
  · intro h
    cases h with
    | left h => exact Or.inl h
    | right h => exact Or.inr h
  · rintro (h | h)
    · exact .left h
    · exact .right h

/-- A repetition covers the empty stretch, and a stretch of its body before one of its own. -/
theorem spans_many {p : Pattern} {x z : Cursor} :
    Spans (many p) x z ↔ x = z ∨ ∃ y, Spans p x y ∧ Spans (many p) y z := by
  constructor
  · intro h
    cases h with
    | stop => exact Or.inl rfl
    | more hp hrest => exact Or.inr ⟨_, hp, hrest⟩
  · rintro (rfl | ⟨y, hp, hrest⟩)
    · exact .stop x
    · exact .more hp hrest

/-! ## Stretches run forward in one text -/

/-- Both ends of a stretch are places in the same text. -/
theorem Spans.text_eq {p : Pattern} {x y : Cursor} (h : Spans p x y) : y.text = x.text := by
  induction h with
  | nothing => rfl
  | one before after => exact Cursor.text_step before _ after
  | place => rfl
  | andThen _ _ ihp ihq => exact ihq.trans ihp
  | left _ ih => exact ih
  | right _ ih => exact ih
  | stop => rfl
  | more _ _ ihp ihrest => exact ihrest.trans ihp

/-- A stretch does not run backwards. -/
theorem Spans.length_le {p : Pattern} {x y : Cursor} (h : Spans p x y) :
    x.before.length ≤ y.before.length := by
  induction h with
  | nothing => exact Nat.le_refl _
  | one => exact Nat.le_succ _
  | place => exact Nat.le_refl _
  | andThen _ _ ihp ihq => exact Nat.le_trans ihp ihq
  | left _ ih => exact ih
  | right _ ih => exact ih
  | stop => exact Nat.le_refl _
  | more _ _ ihp ihrest => exact Nat.le_trans ihp ihrest

/-- Two stretches that lead back to where they began are empty. -/
theorem Spans.eq_of_return {p q : Pattern} {x y : Cursor} (hp : Spans p x y) (hq : Spans q y x) :
    y = x :=
  Cursor.eq_of_length_eq hp.text_eq (Nat.le_antisymm hq.length_le hp.length_le)

/-- At the end of the text every stretch is empty. -/
theorem Spans.eq_of_end {p : Pattern} {before : Text} {y : Cursor} (h : Spans p ⟨before, []⟩ y) :
    y = ⟨before, []⟩ := by
  refine Cursor.eq_of_length_eq h.text_eq (Nat.le_antisymm ?_ h.length_le)
  have hbound := Cursor.length_before_le (x := y)
  rw [h.text_eq] at hbound
  simpa [Cursor.text] using hbound

/-- A stretch that begins behind a character does not end before it. -/
theorem Spans.ne_of_step {p : Pattern} {before after : Text} {c : Char} {y : Cursor}
    (h : Spans p ⟨c :: before, after⟩ y) : y ≠ ⟨before, c :: after⟩ := by
  rintro rfl
  have hle := h.length_le
  simp only [List.length_cons] at hle
  omega

/-! ## The empty stretch -/

/-- The test for the empty stretch is exact. -/
theorem coversEmpty_iff {p : Pattern} {x : Cursor} : p.coversEmpty x = true ↔ Spans p x x := by
  induction p with
  | nothing => simp [coversEmpty]
  | never => simp [coversEmpty]
  | one accepted =>
    simp only [coversEmpty, Bool.false_eq_true, false_iff]
    rw [spans_one]
    rintro ⟨before, c, after, rfl, hback, _⟩
    have hlength := congrArg (fun z : Cursor => z.before.length) hback
    simp at hlength
  | place condition => simp [coversEmpty, spans_place]
  | andThen p q ihp ihq =>
    simp only [coversEmpty, Bool.and_eq_true, ihp, ihq, spans_andThen]
    constructor
    · rintro ⟨hp, hq⟩
      exact ⟨x, hp, hq⟩
    · rintro ⟨y, hp, hq⟩
      obtain rfl := hp.eq_of_return hq
      exact ⟨hp, hq⟩
  | either p q ihp ihq => simp [coversEmpty, spans_either, ihp, ihq]
  | many p => simpa [coversEmpty] using Spans.stop x

/-! ## One character -/

@[simp]
theorem spans_followedBy {p q : Pattern} {x z : Cursor} :
    Spans (followedBy p q) x z ↔ ∃ y, Spans p x y ∧ Spans q y z := by
  unfold followedBy
  split
  · simp
  · exact spans_andThen

/-- What is left after a character covers the rest of a stretch. -/
theorem spans_of_mem_remainders {p r : Pattern} {before after : Text} {c : Char} {y : Cursor}
    (hr : r ∈ remainders ⟨before, c :: after⟩ c p) (h : Spans r ⟨c :: before, after⟩ y) :
    Spans p ⟨before, c :: after⟩ y := by
  induction p generalizing r y with
  | nothing => simp [remainders] at hr
  | never => simp [remainders] at hr
  | one accepted =>
    by_cases hholds : accepted.holds c = true
    · simp only [remainders, hholds, if_true, List.mem_singleton] at hr
      subst hr
      rw [← spans_nothing.1 h]
      exact .one before after hholds
    · simp [remainders, hholds] at hr
  | place condition => simp [remainders] at hr
  | andThen p q ihp ihq =>
    have hcases : (∃ s ∈ remainders ⟨before, c :: after⟩ c p, followedBy s q = r) ∨
        (p.coversEmpty ⟨before, c :: after⟩ = true ∧
          r ∈ remainders ⟨before, c :: after⟩ c q) := by
      by_cases hempty : p.coversEmpty ⟨before, c :: after⟩ = true
      · simpa [remainders, hempty] using hr
      · simpa [remainders, hempty] using hr
    rcases hcases with ⟨s, hs, rfl⟩ | ⟨hempty, hq⟩
    · obtain ⟨z, hsz, hzy⟩ := spans_followedBy.1 h
      exact .andThen (ihp hs hsz) hzy
    · exact .andThen (coversEmpty_iff.1 hempty) (ihq hq h)
  | either p q ihp ihq =>
    rcases List.mem_append.1 hr with hp | hq
    · exact .left (ihp hp h)
    · exact .right (ihq hq h)
  | many p ih =>
    obtain ⟨s, hs, rfl⟩ := List.mem_map.1 hr
    obtain ⟨z, hsz, hzy⟩ := spans_followedBy.1 h
    exact .more (ih hs hsz) hzy

/-- Every stretch that is not empty goes on, after its first character, with what is left. -/
theorem exists_mem_remainders {p : Pattern} {before after : Text} {c : Char} {y : Cursor}
    (h : Spans p ⟨before, c :: after⟩ y) (hne : y ≠ ⟨before, c :: after⟩) :
    ∃ r ∈ remainders ⟨before, c :: after⟩ c p, Spans r ⟨c :: before, after⟩ y := by
  generalize hx : (⟨before, c :: after⟩ : Cursor) = x at h hne
  induction h with
  | nothing => exact absurd rfl hne
  | one before' after' hholds =>
    obtain ⟨rfl, rfl, rfl⟩ : before = before' ∧ c = _ ∧ after = after' := by simpa using hx
    exact ⟨nothing, by simp [remainders, hholds], .nothing _⟩
  | place => exact absurd rfl hne
  | @andThen p q u v w hp hq ihp ihq =>
    subst hx
    by_cases hv : v = ⟨before, c :: after⟩
    · subst hv
      obtain ⟨r, hr, hspans⟩ := ihq rfl hne
      have hempty := coversEmpty_iff.2 hp
      exact ⟨r, by simp [remainders, hempty, hr], hspans⟩
    · obtain ⟨r, hr, hspans⟩ := ihp rfl hv
      refine ⟨followedBy r q, ?_, spans_followedBy.2 ⟨v, hspans, hq⟩⟩
      by_cases hempty : p.coversEmpty ⟨before, c :: after⟩ = true
      · simp only [remainders, hempty, if_true, List.mem_append, List.mem_map]
        exact Or.inl ⟨r, hr, rfl⟩
      · simp only [remainders, hempty, Bool.false_eq_true, if_false, List.mem_map]
        exact ⟨r, hr, rfl⟩
  | left _ ih =>
    obtain ⟨r, hr, hspans⟩ := ih hx hne
    exact ⟨r, List.mem_append.2 (Or.inl (hx ▸ hr)), hspans⟩
  | right _ ih =>
    obtain ⟨r, hr, hspans⟩ := ih hx hne
    exact ⟨r, List.mem_append.2 (Or.inr (hx ▸ hr)), hspans⟩
  | stop => exact absurd rfl hne
  | @more p u v w hp hrest ihp ihrest =>
    subst hx
    by_cases hv : v = ⟨before, c :: after⟩
    · subst hv
      exact ihrest rfl hne
    · obtain ⟨r, hr, hspans⟩ := ihp rfl hv
      exact ⟨followedBy r (many p), List.mem_map.2 ⟨r, hr, rfl⟩,
        spans_followedBy.2 ⟨v, hspans, hrest⟩⟩

/-! ## The search -/

@[simp]
theorem mem_gather {r : Pattern} {found known : List Pattern} :
    r ∈ gather found known ↔ r ∈ found ∨ r ∈ known := by
  induction found with
  | nil => simp [gather]
  | cons p rest ih =>
    have hstep : gather (p :: rest) known = List.insert p (gather rest known) := rfl
    rw [hstep, List.mem_insert_iff, ih, List.mem_cons, or_assoc]

/-- The search from a place answers yes exactly when a pending pattern covers a stretch there, or
the pattern covers one there or later. -/
theorem findFrom_iff {p : Pattern} {pending : List Pattern} {before after : Text} :
    findFrom p pending before after = true ↔
      (∃ q ∈ pending, ∃ y, Spans q ⟨before, after⟩ y) ∨
        ∃ x y, x.text = (Cursor.mk before after).text ∧ before.length ≤ x.before.length ∧
          Spans p x y := by
  induction after generalizing pending before with
  | nil =>
    have hstart : findFrom p pending before [] = true ↔
        ∃ q ∈ p :: pending, Spans q ⟨before, []⟩ ⟨before, []⟩ := by
      simp only [findFrom, List.any_eq_true, coversEmpty_iff]
    rw [hstart]
    constructor
    · rintro ⟨q, hq, hspans⟩
      rcases List.mem_cons.1 hq with rfl | hpending
      · exact Or.inr ⟨_, _, rfl, Nat.le_refl _, hspans⟩
      · exact Or.inl ⟨q, hpending, _, hspans⟩
    · rintro (⟨q, hq, y, hspans⟩ | ⟨x, y, htext, hlength, hspans⟩)
      · have hy := hspans.eq_of_end
        subst hy
        exact ⟨q, List.mem_cons_of_mem _ hq, hspans⟩
      · have hbound := Cursor.length_before_le (x := x)
        rw [htext] at hbound
        have hx : x = ⟨before, []⟩ :=
          Cursor.eq_of_length_eq htext
            (Nat.le_antisymm (by simpa [Cursor.text] using hbound) hlength)
        subst hx
        have hy := hspans.eq_of_end
        subst hy
        exact ⟨p, List.mem_cons_self, hspans⟩
  | cons c after ih =>
    have hstep : findFrom p pending before (c :: after) = true ↔
        (∃ q ∈ p :: pending, Spans q ⟨before, c :: after⟩ ⟨before, c :: after⟩) ∨
          findFrom p (gather ((p :: pending).flatMap (remainders ⟨before, c :: after⟩ c)) [])
            (c :: before) after = true := by
      simp only [findFrom, Bool.or_eq_true, List.any_eq_true, coversEmpty_iff]
    rw [hstep, ih]
    have hcover : ∀ q ∈ p :: pending, ∀ y, Spans q ⟨before, c :: after⟩ y →
        (∃ q ∈ p :: pending, Spans q ⟨before, c :: after⟩ ⟨before, c :: after⟩) ∨
          ∃ r ∈ gather ((p :: pending).flatMap (remainders ⟨before, c :: after⟩ c)) [],
            ∃ y, Spans r ⟨c :: before, after⟩ y := by
      intro q hq y hspans
      by_cases hy : y = ⟨before, c :: after⟩
      · exact Or.inl ⟨q, hq, hy ▸ hspans⟩
      · obtain ⟨r, hr, hrest⟩ := exists_mem_remainders hspans hy
        exact Or.inr ⟨r, mem_gather.2 (Or.inl (List.mem_flatMap.2 ⟨q, hq, hr⟩)), y, hrest⟩
    have hback : ∀ q ∈ p :: pending, ∀ y, Spans q ⟨before, c :: after⟩ y →
        (∃ q ∈ pending, ∃ y, Spans q ⟨before, c :: after⟩ y) ∨
          ∃ x y, x.text = (Cursor.mk before (c :: after)).text ∧
            before.length ≤ x.before.length ∧ Spans p x y := by
      intro q hq y hspans
      rcases List.mem_cons.1 hq with rfl | hpending
      · exact Or.inr ⟨_, y, rfl, Nat.le_refl _, hspans⟩
      · exact Or.inl ⟨q, hpending, y, hspans⟩
    constructor
    · rintro (⟨q, hq, hspans⟩ | ⟨r, hr, y, hspans⟩ | ⟨x, y, htext, hlength, hspans⟩)
      · exact hback q hq _ hspans
      · rcases mem_gather.1 hr with hfound | hnone
        · obtain ⟨q, hq, hmem⟩ := List.mem_flatMap.1 hfound
          exact hback q hq y (spans_of_mem_remainders hmem hspans)
        · simp at hnone
      · refine Or.inr ⟨x, y, htext.trans (Cursor.text_step before c after), ?_, hspans⟩
        exact Nat.le_of_succ_le hlength
    · rintro (⟨q, hq, y, hspans⟩ | ⟨x, y, htext, hlength, hspans⟩)
      · rcases hcover q (List.mem_cons_of_mem _ hq) y hspans with hempty | hlater
        · exact Or.inl hempty
        · exact Or.inr (Or.inl hlater)
      · rcases Nat.lt_or_eq_of_le hlength with hlt | heq
        · exact Or.inr (Or.inr ⟨x, y, htext.trans (Cursor.text_step before c after).symm, hlt,
            hspans⟩)
        · have hx : x = ⟨before, c :: after⟩ := Cursor.eq_of_length_eq htext heq.symm
          subst hx
          rcases hcover p List.mem_cons_self y hspans with hempty | hlater
          · exact Or.inl hempty
          · exact Or.inr (Or.inl hlater)

/-- The search is exact: it answers yes when the pattern covers some stretch, and only then. -/
theorem occursIn_iff {p : Pattern} {text : Text} : p.occursIn text = true ↔ p.Occurs text := by
  unfold occursIn Occurs
  rw [findFrom_iff]
  constructor
  · rintro (⟨q, hq, _⟩ | ⟨x, y, htext, _, hspans⟩)
    · simp at hq
    · exact ⟨x, y, htext, hspans⟩
  · rintro ⟨x, y, htext, hspans⟩
    exact Or.inr ⟨x, y, htext, Nat.zero_le _, hspans⟩

end Pattern
end BranchFold
