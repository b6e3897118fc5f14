import BranchFold.Proofs.WholeSums
import BranchFold.Service.Metrics
import Mathlib.Algebra.Order.BigOperators.Group.List
import Mathlib.Algebra.Order.Group.Nat
import Mathlib.Data.List.Perm.Basic

/-!
# What counters and histograms hold

Counters and histograms are built up one event after another.  This module says what they hold after
any events: under each key the count of its own events, and over all keys the count of all of them.
Each count stands still at two to the power of 53, and up to there it is exact.

Main definition:

- {lit}`Tallies.CountInAll`: the counts are those of so many events in all.

Main results:

- Theorem {lit}`Counter.count_foldl_increment`: the count under a label.
- Theorem {lit}`Counter.countInAll_foldl_increment`: the counts under all labels.
- Theorem {lit}`Histogram.countInAll_foldl_observe`: the counts of observations by size.
- Theorem {lit}`Histogram.buckets_eq_of_perm`: the order of the observations does not show in them.
-/

namespace BranchFold
namespace Service

/-! ## Tallies -/

namespace Tallies

variable {Key : Type} {tallies : Tallies Key} {events : Nat}

/-- Counting two events, each under the first key that it wants, gives the same in both orders. -/
theorem bump_bump_comm (wanted wanted' : Key → Bool) (tallies : Tallies Key) :
    (tallies.bump wanted).bump wanted' = (tallies.bump wanted').bump wanted := by
  induction tallies with
  | nil => rfl
  | cons entry rest ih =>
    by_cases hwanted : wanted entry.1 <;> by_cases hwanted' : wanted' entry.1 <;>
      simp [bump, hwanted, hwanted', ih]

/-- An event under a key of its own leaves the other keys alone. -/
theorem lookup_bump [DecidableEq Key] (label other : Key) (tallies : Tallies Key) :
    (tallies.bump (· = label)).lookup other =
      (tallies.lookup other).map fun count => if other = label then count.add .one else count := by
  induction tallies with
  | nil => rfl
  | cons entry rest ih =>
    rcases entry with ⟨key, count⟩
    by_cases hkey : key = label <;> by_cases hother : other = key
    · simp [bump, hkey, hother]
    · have hbeq : (other == label) = false := by simpa [← hkey] using hother
      have hne : other ≠ label := by simpa using hbeq
      simp [bump, hkey, List.lookup_cons, hbeq, hne]
    · simp [bump, hkey, hother]
    · have hbeq : (other == key) = false := by simpa using hother
      simp [bump, hkey, List.lookup_cons, hbeq, ih]

/-- The counts are those of so many events in all. -/
def CountInAll (tallies : Tallies Key) (events : Nat) : Prop :=
  ∃ counts : List (Key × Nat),
    tallies = counts.map (fun entry => (entry.1, Binary64.tally entry.2)) ∧
      (counts.map Prod.snd).sum = events

/-- Keys without events count nothing. -/
theorem countInAll_zero (keys : List Key) :
    CountInAll (keys.map fun key => (key, Binary64.zero)) 0 := by
  refine ⟨keys.map fun key => (key, 0), ?_, ?_⟩
  · simp [Function.comp_def]
  · simp [Function.comp_def]

/-- A further key without events changes nothing. -/
theorem CountInAll.append_zero (h : tallies.CountInAll events) (key : Key) :
    CountInAll (tallies ++ [(key, .zero)]) events := by
  rcases h with ⟨counts, rfl, rfl⟩
  exact ⟨counts ++ [(key, 0)], by simp, by simp⟩

/-- An event whose key is there is counted. -/
theorem CountInAll.bump (h : tallies.CountInAll events) {wanted : Key → Bool}
    (hwanted : ∃ key ∈ tallies.map Prod.fst, wanted key = true) :
    (tallies.bump wanted).CountInAll (events + 1) := by
  rcases h with ⟨counts, rfl, rfl⟩
  induction counts with
  | nil => simp at hwanted
  | cons entry rest ih =>
    by_cases hkey : wanted entry.1 = true
    · refine ⟨(entry.1, entry.2 + 1) :: rest, ?_, ?_⟩
      · simp [Tallies.bump, hkey, Binary64.tally_add_one]
      · simp
        omega
    · rcases ih (by simpa [hkey] using hwanted) with ⟨counts, hcounts, hsum⟩
      refine ⟨entry :: counts, ?_, ?_⟩
      · simp [Tallies.bump, hkey, hcounts]
      · simp [hsum]
        omega

/-- Up to two to the power of 53 events, all counts together are the number of events. -/
theorem CountInAll.total_eq (h : tallies.CountInAll events) (hbound : events ≤ powerOfTwo 53) :
    tallies.total = Binary64.ofInt (events : Int) := by
  rcases h with ⟨counts, rfl, rfl⟩
  have hexact : (counts.map fun entry => Binary64.tally entry.2) =
      (counts.map Prod.snd).map fun n : Nat => Binary64.ofInt (n : Int) := by
    rw [List.map_map]
    refine List.map_congr_left fun entry hentry => Binary64.tally_of_le ?_
    exact Nat.le_trans (List.le_sum_of_mem (List.mem_map_of_mem hentry)) hbound
  have hsum := Binary64.foldl_add_ofInt 0 (counts.map Prod.snd) (by simpa using hbound)
  rw [← hexact, Nat.zero_add, List.foldl_map] at hsum
  rw [total, List.foldl_map]
  exact hsum

end Tallies

/-! ## Counters -/

namespace Counter

variable {Label : Type} [DecidableEq Label]

/-- A label that is listed has no events but its own. -/
theorem lookup_labelled (counter : Counter Label) (label other : Label) :
    ((counter.labelled label).lookup other).getD .zero = counter.count other := by
  unfold labelled count
  split
  · rfl
  · rw [List.lookup_append]
    cases hentry : counter.entries.lookup other with
    | some count => rfl
    | none =>
      cases hother : other == label <;> simp [List.lookup_cons, hother]

/-- The label is listed. -/
theorem mem_labelled (counter : Counter Label) (label : Label) :
    label ∈ (counter.labelled label).map Prod.fst := by
  unfold labelled
  split
  · rename_i hany
    rcases List.any_eq_true.1 hany with ⟨entry, hentry, hkey⟩
    exact List.mem_map.2 ⟨entry, hentry, by simpa using hkey⟩
  · simp

/-- An event adds one under its own label and nothing elsewhere. -/
theorem count_increment (counter : Counter Label) (label other : Label) :
    (counter.increment label).count other =
      if other = label then (counter.count other).add .one else counter.count other := by
  have hlookup := counter.lookup_labelled label other
  rw [count, increment, Tallies.lookup_bump]
  by_cases hother : other = label
  · subst hother
    rcases List.mem_map.1 (counter.mem_labelled other) with ⟨entry, hentry, hkey⟩
    have hlisted : ((counter.labelled other).lookup other).isSome = true :=
      List.lookup_isSome_iff.2 ⟨entry, hentry, by simp [hkey]⟩
    rcases Option.isSome_iff_exists.1 hlisted with ⟨found, hfound⟩
    rw [hfound, Option.getD_some] at hlookup
    simp [hfound, hlookup]
  · simpa [hother] using hlookup

/-- Under its label, a counter counts the events of that label. -/
theorem count_foldl_increment {counter : Counter Label} {label : Label} {before : Nat}
    (h : counter.count label = Binary64.tally before) (labels : List Label) :
    (labels.foldl increment counter).count label =
      Binary64.tally (before + labels.count label) := by
  induction labels generalizing counter before with
  | nil => simpa using h
  | cons other labels ih =>
    rw [List.foldl_cons, List.count_cons]
    by_cases hother : label = other
    · subst hother
      have hnext : (counter.increment label).count label = Binary64.tally (before + 1) := by
        rw [count_increment, if_pos rfl, h, Binary64.tally_add_one]
      rw [ih hnext]
      simp [Nat.add_assoc, Nat.add_comm 1]
    · have hnext : (counter.increment other).count label = Binary64.tally before := by
        rw [count_increment, if_neg hother, h]
      rw [ih hnext]
      simp [Ne.symm hother]

/-- A counter counts one more event in all. -/
theorem countInAll_increment {counter : Counter Label} {events : Nat}
    (h : counter.entries.CountInAll events) (label : Label) :
    (counter.increment label).entries.CountInAll (events + 1) := by
  have hlabelled : (counter.labelled label).CountInAll events := by
    unfold labelled
    split
    · exact h
    · exact h.append_zero label
  exact hlabelled.bump ⟨label, counter.mem_labelled label, by simp⟩

/-- A counter counts all events. -/
theorem countInAll_foldl_increment {counter : Counter Label} {events : Nat}
    (h : counter.entries.CountInAll events) (labels : List Label) :
    (labels.foldl increment counter).entries.CountInAll (events + labels.length) := by
  induction labels generalizing counter events with
  | nil => simpa using h
  | cons label labels ih =>
    have hrest := ih (countInAll_increment h label)
    rwa [Nat.add_assoc, Nat.add_comm 1] at hrest

end Counter

/-! ## Histograms -/

namespace Histogram

variable {values values' : List Binary64}

/-- The observations are added up in their order. -/
theorem sum_foldl_observe (histogram : Histogram) (values : List Binary64) :
    (values.foldl observe histogram).sum = values.foldl Binary64.add histogram.sum := by
  induction values generalizing histogram with
  | nil => rfl
  | cons value values ih => exact ih (histogram.observe value)

/-- The observations are counted by size one after another. -/
theorem buckets_foldl_observe (histogram : Histogram) (values : List Binary64) :
    (values.foldl observe histogram).buckets =
      values.foldl (fun buckets value => buckets.bump value.le) histogram.buckets := by
  induction values generalizing histogram with
  | nil => rfl
  | cons value values ih => exact ih (histogram.observe value)

/-- The counts by size do not depend on the order of the observations. -/
theorem buckets_eq_of_perm (histogram : Histogram) (h : values.Perm values') :
    (values.foldl observe histogram).buckets = (values'.foldl observe histogram).buckets := by
  have hcomm : RightCommutative fun (buckets : Tallies Binary64) (value : Binary64) =>
      buckets.bump value.le :=
    ⟨fun buckets value value' => Tallies.bump_bump_comm value.le value'.le buckets⟩
  rw [buckets_foldl_observe, buckets_foldl_observe]
  exact h.foldl_eq histogram.buckets

/-- A number that is defined lies below the last bound. -/
theorem le_infinite {value : Binary64} (h : value ≠ .undefined) :
    value.le (.infinite false) = true := by
  cases value with
  | finite | infinite => simp [Binary64.le]
  | undefined => exact absurd rfl h

/-- A histogram counts all observations, if each is a number. -/
theorem countInAll_foldl_observe (bounds : List Binary64)
    (h : ∀ value ∈ values, value ≠ .undefined) :
    (values.foldl observe (ofBounds bounds)).buckets.CountInAll values.length := by
  suffices hfrom : ∀ (histogram : Histogram) (events : Nat),
      histogram.buckets.map Prod.fst = bounds ++ [.infinite false] →
      histogram.buckets.CountInAll events →
      (values.foldl observe histogram).buckets.CountInAll (events + values.length) by
    have hempty := hfrom (ofBounds bounds) 0 (by simp [ofBounds, Function.comp_def])
      (Tallies.countInAll_zero _)
    rwa [Nat.zero_add] at hempty
  induction values with
  | nil => exact fun histogram events _ hevents => hevents
  | cons value values ih =>
    intro histogram events hkeys hevents
    rcases List.forall_mem_cons.1 h with ⟨hvalue, hvalues⟩
    -- The last bound holds every number, so the observation is counted somewhere.
    have hcounted : (histogram.observe value).buckets.CountInAll (events + 1) :=
      hevents.bump ⟨.infinite false, by simp [hkeys], le_infinite hvalue⟩
    have hrest := ih hvalues (histogram.observe value) (events + 1)
      (by rw [observe, Tallies.map_fst_bump, hkeys]) hcounted
    rwa [Nat.add_assoc, Nat.add_comm 1] at hrest

end Histogram
end Service
end BranchFold
