import BranchFold.Number.Shortest

/-!
# Metrics of the service

Counters count events by label, histograms count observations by size and add them up.  All these
numbers are of double precision, so adding one to a count of two to the power of 53 changes nothing.
Labels are listed in the order of their first use.

Main definitions:

- {lit}`Tallies`: counts under keys.
- {lit}`Counter`: counts by label.
- {lit}`Histogram`: counts by size, and a sum.
- {lit}`Metrics`: all the metrics of the service, with {lit}`Metrics.recordFold` and
  {lit}`Metrics.recordResponse` to add to them.
-/

namespace BranchFold
namespace Service

/-! ## Tallies -/

/-- Counts under keys. -/
abbrev Tallies (Key : Type) := List (Key × Binary64)

namespace Tallies

variable {Key : Type}

/-- The counts with one more event under the first key that is wanted. -/
def bump (wanted : Key → Bool) : Tallies Key → Tallies Key
  | [] => []
  | (key, count) :: rest =>
      if wanted key then (key, count.add .one) :: rest else (key, count) :: bump wanted rest

/-- All counts, added up one after another. -/
def total (tallies : Tallies Key) : Binary64 :=
  tallies.foldl (fun sum entry => sum.add entry.2) .zero

/-- The keys with the counts up to each of them. -/
def runningFrom (sum : Binary64) : Tallies Key → Tallies Key
  | [] => []
  | (key, count) :: rest => (key, sum.add count) :: runningFrom (sum.add count) rest

/-- Counting an event changes no key. -/
@[simp]
theorem map_fst_bump (wanted : Key → Bool) (tallies : Tallies Key) :
    (tallies.bump wanted).map Prod.fst = tallies.map Prod.fst := by
  induction tallies with
  | nil => rfl
  | cons entry rest ih =>
    by_cases hwanted : wanted entry.1 <;> simp [bump, hwanted, ih]

end Tallies

/-! ## Counters -/

/-- Counts by label, in the order of first use. -/
structure Counter (Label : Type) where
  entries : Tallies Label := []
  deriving DecidableEq, Repr

namespace Counter

variable {Label : Type} [DecidableEq Label]

/-- The entries, with one for the label. -/
def labelled (counter : Counter Label) (label : Label) : Tallies Label :=
  if counter.entries.any (·.1 = label) then counter.entries
  else counter.entries ++ [(label, .zero)]

/-- Count one event. -/
def increment (counter : Counter Label) (label : Label) : Counter Label :=
  ⟨(counter.labelled label).bump (· = label)⟩

/-- The count under a label. -/
def count (counter : Counter Label) (label : Label) : Binary64 :=
  (counter.entries.lookup label).getD .zero

/-- The counts under all labels together. -/
def total (counter : Counter Label) : Binary64 :=
  counter.entries.total

end Counter

/-! ## Histograms -/

/-- Counts of observations by size, each under the least bound that holds them, and the sum of the
observations. -/
structure Histogram where
  buckets : Tallies Binary64
  sum : Binary64 := .zero
  deriving DecidableEq, Repr

namespace Histogram

/-- A histogram without observations; behind the given bounds, every number is held. -/
def ofBounds (bounds : List Binary64) : Histogram :=
  { buckets := (bounds ++ [Binary64.infinite false]).map fun bound => (bound, .zero) }

/-- Add an observation. -/
def observe (histogram : Histogram) (value : Binary64) : Histogram :=
  { buckets := histogram.buckets.bump value.le
    sum := histogram.sum.add value }

/-- The number of observations. -/
def count (histogram : Histogram) : Binary64 :=
  histogram.buckets.total

end Histogram

/-! ## The metrics -/

/-- A response as it is counted. -/
structure ResponseLabel where
  endpoint : String
  method : String
  status : Int
  deriving DecidableEq, Repr

/-- The bounds for the duration of a request, in seconds. -/
def durationBounds : List Binary64 :=
  [(5, -4), (1, -3), (5, -3), (1, -2), (25, -3), (5, -2), (1, -1), (25, -2), (5, -1), (1, 0),
    (25, -1)].map fun (digits, exponent) => Binary64.ofDecimal false digits exponent

/-- The bounds for the number of lines of a document. -/
def lineBounds : List Binary64 :=
  [10, 50, 100, 500, 1000, 5000, 10000, 50000].map Binary64.ofInt

/-- All the metrics of the service. -/
structure Metrics where
  foldRequests : Counter String := {}
  foldDuration : Histogram := .ofBounds durationBounds
  documentLines : Histogram := .ofBounds lineBounds
  rangesFound : Counter String := {}
  responses : Counter ResponseLabel := {}
  deriving DecidableEq, Repr

namespace Metrics

/-- Record a request for the ranges of a document: how it ended, how long it took, how many lines
the document has, and the categories of the ranges found. -/
def recordFold (metrics : Metrics) (status : String) (duration lines : Binary64)
    (categories : List String) : Metrics :=
  { metrics with
    foldRequests := metrics.foldRequests.increment status
    foldDuration := metrics.foldDuration.observe duration
    documentLines := metrics.documentLines.observe lines
    rangesFound := categories.foldl Counter.increment metrics.rangesFound }

/-- Record a response. -/
def recordResponse (metrics : Metrics) (label : ResponseLabel) : Metrics :=
  { metrics with responses := metrics.responses.increment label }

end Metrics
end Service
end BranchFold
