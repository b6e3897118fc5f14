import BranchFold.Files.Path
import Mathlib.Tactic.Common

/-!
# Paths in normal form

An absolute path is worked out piece by piece: empty pieces and pieces for the folder itself go, and
a step to the folder above undoes the step before it.  What is left are steps that each lead one
folder down.  This module proves that such paths are in normal form, that working out a path in
normal form changes nothing, and that the names of a folder lead from a path in normal form to
others.

Main definitions:

- {lit}`Path.IsStep`: a piece that leads one folder down.
- {lit}`Path.IsNormal`: slashes at the start, and then steps with single slashes between them.

Main results:

- Theorem {lit}`Path.pieces_append_slash`: a slash parts the pieces before it from those behind it.
- Theorem {lit}`Path.isNormal_absolute`: absolute paths are in normal form.
- Theorem {lit}`Path.IsNormal.absolute_eq`: a path in normal form is its own absolute path.
- Theorem {lit}`Path.IsNormal.inside`: names inside a folder.
-/

namespace BranchFold
namespace Path

/-! ## Pieces -/

/-- A text has at least one piece. -/
theorem pieces_ne_nil (text : Text) : pieces text ≠ [] := by
  cases text with
  | nil => simp [pieces]
  | cons c rest =>
    rw [pieces]
    split
    · simp
    · split <;> simp

/-- A character other than the slash belongs to the first piece. -/
theorem pieces_cons {c : Char} (hc : c ≠ '/') (rest : Text) :
    ∃ piece more, pieces rest = piece :: more ∧ pieces (c :: rest) = (c :: piece) :: more := by
  rcases List.exists_cons_of_ne_nil (pieces_ne_nil rest) with ⟨piece, more, hrest⟩
  exact ⟨piece, more, hrest, by simp [pieces, hc, hrest]⟩

/-- A slash parts the pieces before it from those behind it. -/
theorem pieces_append_slash (text rest : Text) :
    pieces (text ++ '/' :: rest) = pieces text ++ pieces rest := by
  induction text with
  | nil => simp [pieces]
  | cons c text ih =>
    by_cases hc : c = '/'
    · simp [pieces, hc, ih]
    · rcases pieces_cons hc text with ⟨piece, more, htext, hcons⟩
      rcases pieces_cons hc (text ++ '/' :: rest) with ⟨piece', more', htext', hcons'⟩
      have hboth : piece' :: more' = piece :: (more ++ pieces rest) := by
        rw [← htext', ih, htext, List.cons_append]
      injection hboth with hpiece hmore
      rw [List.cons_append, hcons', hcons, hpiece, hmore, List.cons_append]

/-- A text without slashes is its only piece. -/
theorem pieces_of_notMem {text : Text} (h : '/' ∉ text) : pieces text = [text] := by
  induction text with
  | nil => rfl
  | cons c rest ih =>
    rw [List.mem_cons, not_or] at h
    have hc : c ≠ '/' := fun heq => h.1 heq.symm
    simp [pieces, hc, ih h.2]

/-- No piece holds a slash. -/
theorem slash_notMem_of_mem_pieces {text piece : Text} (h : piece ∈ pieces text) :
    '/' ∉ piece := by
  induction text generalizing piece with
  | nil =>
    rw [pieces, List.mem_singleton] at h
    simp [h]
  | cons c rest ih =>
    by_cases hc : c = '/'
    · rw [pieces, if_pos (by simp [hc]), List.mem_cons] at h
      rcases h with rfl | hrest
      · simp
      · exact ih hrest
    · rcases pieces_cons hc rest with ⟨first, more, hrest, hcons⟩
      rw [hcons, List.mem_cons] at h
      rcases h with rfl | hmore
      · have hmem : first ∈ pieces rest := by simp [hrest]
        have hfirst := ih hmem
        simpa [hfirst] using fun heq : '/' = c => hc heq.symm
      · exact ih (by simp [hrest, hmore])

/-! ## Steps -/

/-- The piece leads one folder down. -/
structure IsStep (piece : Text) : Prop where
  ne_nil : piece ≠ []
  ne_here : piece ≠ here
  ne_above : piece ≠ above
  slash_notMem : '/' ∉ piece

/-- A name behind others. -/
theorem joined_concat {names : List Text} (h : names ≠ []) (name : Text) :
    joined (names ++ [name]) = joined names ++ '/' :: name := by
  induction names with
  | nil => exact absurd rfl h
  | cons first rest ih =>
    cases rest with
    | nil => rfl
    | cons second rest =>
      have hrest := ih (by simp)
      simp only [List.cons_append, joined] at hrest ⊢
      rw [hrest, List.append_assoc, List.cons_append]

/-- Steps are the pieces of the text that joins them. -/
theorem pieces_joined {names : List Text} (hne : names ≠ []) (h : ∀ name ∈ names, IsStep name) :
    pieces (joined names) = names := by
  induction names with
  | nil => exact absurd rfl hne
  | cons first rest ih =>
    have hfirst := (h first List.mem_cons_self).slash_notMem
    cases rest with
    | nil => exact pieces_of_notMem hfirst
    | cons second rest =>
      have hrest := ih (by simp) fun name hname => h name (List.mem_cons_of_mem _ hname)
      rw [joined, pieces_append_slash, pieces_of_notMem hfirst, hrest, List.singleton_append]
      simp

/-- Steps do not end in a slash. -/
theorem getLast?_joined_ne {names : List Text} (h : ∀ name ∈ names, IsStep name) :
    (joined names).getLast? ≠ some '/' := by
  rcases List.eq_nil_or_concat names with rfl | ⟨front, last, rfl⟩
  · simp [joined]
  · have hlast := h last (by simp)
    have hend : (joined (front ++ [last])).getLast? = last.getLast? := by
      by_cases hfront : front = []
      · rw [hfront]
        rfl
      · rw [joined_concat hfront, List.getLast?_append, List.getLast?_cons_of_ne_nil hlast.ne_nil]
        simp [List.getLast?_eq_some_getLast hlast.ne_nil]
    intro heq
    rw [List.concat_eq_append, hend] at heq
    exact hlast.slash_notMem (List.mem_of_getLast? heq)

/-- Steps do not begin with a slash. -/
theorem head?_joined_ne {names : List Text} (h : ∀ name ∈ names, IsStep name) :
    (joined names).head? ≠ some '/' := by
  cases names with
  | nil => simp [joined]
  | cons first rest =>
    have hfirst := h first List.mem_cons_self
    have hstart : (joined (first :: rest)).head? = first.head? := by
      cases rest with
      | nil => rfl
      | cons second rest =>
        rw [joined, List.head?_append, List.head?_eq_some_head hfirst.ne_nil]
        · rfl
        · simp
    intro heq
    rw [hstart] at heq
    exact hfirst.slash_notMem (List.mem_of_head? heq)

/-- Without steps to the folder above there is nothing to undo. -/
theorem withoutDetours_eq {names : List Text} (h : ∀ name ∈ names, name ≠ above) :
    withoutDetours names = names := by
  have hfold : ∀ done : List Text,
      names.foldl (fun done name => if name == above then done.drop 1 else name :: done) done =
        names.reverse ++ done := by
    induction names with
    | nil => simp
    | cons name rest ih =>
      intro done
      have hname : ¬ (name == above) = true := by simpa using h name List.mem_cons_self
      have hrest := ih fun other hother => h other (List.mem_cons_of_mem _ hother)
      rw [List.foldl_cons, if_neg hname, hrest]
      simp
  rw [withoutDetours, hfold, List.append_nil, List.reverse_reverse]

/-- What is left after undoing steps are steps that lead down. -/
theorem mem_withoutDetours {names : List Text} {name : Text} (h : name ∈ withoutDetours names) :
    name ∈ names ∧ name ≠ above := by
  have hfold : ∀ done : List Text, ∀ name ∈ names.foldl
      (fun done name => if name == above then done.drop 1 else name :: done) done,
        name ∈ done ∨ name ∈ names ∧ name ≠ above := by
    clear h
    induction names with
    | nil =>
      intro done name hname
      exact Or.inl hname
    | cons first rest ih =>
      intro done name hname
      rw [List.foldl_cons] at hname
      rcases ih _ name hname with hdone | ⟨hrest, hne⟩
      · split_ifs at hdone with habove
        · exact Or.inl (List.mem_of_mem_drop hdone)
        · rcases List.mem_cons.1 hdone with rfl | hdone
          · exact Or.inr ⟨List.mem_cons_self, by simpa using habove⟩
          · exact Or.inl hdone
      · exact Or.inr ⟨List.mem_cons_of_mem _ hrest, hne⟩
  rw [withoutDetours, List.mem_reverse] at h
  simpa using hfold [] name h

/-! ## Normal form -/

/-- One slash or two, and then steps with single slashes between them. -/
def IsNormal (path : Text) : Prop :=
  ∃ slashes names, (slashes = ['/'] ∨ slashes = ['/', '/']) ∧
    (∀ name ∈ names, IsStep name) ∧ path = slashes ++ joined names

/-- Absolute paths are in normal form. -/
theorem isNormal_absolute (directory path : Text) : IsNormal (absolute directory path) := by
  refine ⟨opening _, withoutDetours (steps _), ?_, ?_, rfl⟩
  · generalize (if Path.isAbsolute path then path else Path.inside directory path) = whole
    unfold opening
    by_cases hlength : ((whole.takeWhile (· == '/')).length == 2) = true
    · exact Or.inr (if_pos hlength)
    · exact Or.inl (if_neg hlength)
  · intro name hname
    rcases mem_withoutDetours hname with ⟨hstep, hne⟩
    rw [steps, List.mem_filter] at hstep
    rcases hstep with ⟨hpiece, hkept⟩
    simp only [Bool.not_eq_eq_eq_not, Bool.not_true, Bool.or_eq_false_iff, beq_eq_false_iff_ne]
      at hkept
    exact ⟨hkept.1, hkept.2, hne, slash_notMem_of_mem_pieces hpiece⟩

namespace IsNormal

variable {path : Text}

theorem isAbsolute (h : IsNormal path) : Path.isAbsolute path = true := by
  rcases h with ⟨slashes, names, rfl | rfl, -, rfl⟩
  · rfl
  · rfl

/-- Working out a path in normal form changes nothing. -/
theorem absolute_eq (h : IsNormal path) (directory : Text) : absolute directory path = path := by
  have habsolute := h.isAbsolute
  rcases h with ⟨slashes, names, hslashes, hnames, rfl⟩
  have hopening : opening (slashes ++ joined names) = slashes := by
    have hrest : (joined names).takeWhile (· == '/') = [] := by
      have hhead := head?_joined_ne hnames
      cases hjoined : joined names with
      | nil => rfl
      | cons c rest =>
        have hc : ¬ (c == '/') = true := by simpa [hjoined] using hhead
        rw [List.takeWhile_cons, if_neg hc]
    rcases hslashes with rfl | rfl
    · simp [opening, hrest]
    · simp [opening, hrest]
  have hsteps : steps (slashes ++ joined names) = names := by
    have hkept : (pieces (joined names)).filter
        (fun piece => !(piece == [] || piece == here)) = names := by
      by_cases hne : names = []
      · rw [hne]
        rfl
      · rw [pieces_joined hne hnames, List.filter_eq_self]
        intro name hname
        have hstep := hnames name hname
        simp [hstep.ne_nil, hstep.ne_here]
    rcases hslashes with rfl | rfl
    · simpa [steps, pieces] using hkept
    · simpa [steps, pieces] using hkept
  rw [absolute, if_pos habsolute, hopening, hsteps,
    withoutDetours_eq fun name hname => (hnames name hname).ne_above]

/-- A name inside a folder whose path is in normal form. -/
theorem inside (h : IsNormal path) {name : Text} (hname : IsStep name) :
    IsNormal (inside path name) := by
  rcases h with ⟨slashes, names, hslashes, hnames, rfl⟩
  refine ⟨slashes, names ++ [name], hslashes, ?_, ?_⟩
  · intro other hother
    rcases List.mem_append.1 hother with hother | hother
    · exact hnames other hother
    · rw [List.mem_singleton.1 hother]
      exact hname
  · unfold Path.inside
    by_cases hne : names = []
    · rcases hslashes with rfl | rfl <;> simp [hne, joined]
    · have hend : ¬ ((slashes ++ joined names).getLast? == some '/') = true := by
        have hjoined : joined names ≠ [] := by
          intro heq
          have hpieces := pieces_joined hne hnames
          rw [heq, pieces] at hpieces
          exact (hnames [] (by simp [← hpieces])).ne_nil rfl
        have hlast := getLast?_joined_ne hnames
        rw [List.getLast?_eq_some_getLast hjoined] at hlast
        simpa [List.getLast?_append, List.getLast?_eq_some_getLast hjoined] using hlast
      rw [if_neg hend, joined_concat hne, List.append_assoc]

end IsNormal
end Path
end BranchFold
