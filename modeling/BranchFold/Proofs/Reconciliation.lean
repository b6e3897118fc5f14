import BranchFold.Proofs.Reasons
import BranchFold.Proofs.Tallies
import BranchFold.Service.App

/-!
# Metrics and answers agree

The service counts what it does while it answers.  This module says what the metrics hold after any
sequence of requests: which answers are counted, under which labels and with which numbers.  One
lemma tells what a single request can do to the metrics, the invariant {lit}`Metrics.Accounts` is
kept by every request, and the statements about whole sequences are read off it.

Counts stand still at two to the power of 53, and sums are rounded beyond it, so the numbers of the
metrics are those of the answers up to there.

Main definitions:

- {lit}`App.foldRequest?`: the request for ranges that a request makes.
- {lit}`App.judgementFault?`: what goes wrong while a document is judged.
- {lit}`Metrics.Accounts`: the metrics tell of given answers and nothing else.

Main results:

- Theorem {lit}`App.handle_cases`: what a request can do.
- Theorem {lit}`App.accounts_run`: what the metrics hold after a sequence of requests.
- Theorem {lit}`App.metrics_reconcile_with_answers`: the metrics agree with the answers.
- Theorem {lit}`App.sum_of_lines_is_rounded`: beyond the bound, a sum does not.
-/

namespace BranchFold
namespace Service

/-! ## Requests and answers -/

/-- The request reaches the endpoint by its method. -/
def Request.Reaches (request : Request) (endpoint : App.Endpoint) : Prop :=
  App.endpoint? request.path = some endpoint ∧
    Text.upper request.method.toList = endpoint.method.toList

instance (request : Request) (endpoint : App.Endpoint) : Decidable (request.Reaches endpoint) :=
  inferInstanceAs (Decidable (_ ∧ _))

/-- A request reaches one endpoint at most. -/
theorem Request.Reaches.endpoint_eq {request : Request} {endpoint other : App.Endpoint}
    (h : request.Reaches endpoint) (h' : request.Reaches other) : endpoint = other := by
  have hsame := h.1.symm.trans h'.1
  rwa [Option.some.injEq] at hsame

/-- The request for ranges that a request makes, if it makes one and its body is in order. -/
def App.foldRequest? (app : App) (request : Request) : Option FoldRequest :=
  if request.Reaches .fold then (FoldRequest.ofBody app.limits request.body).toOption else none

/-- Only a request that reaches the endpoint for ranges makes a request for ranges. -/
theorem App.reaches_fold {app : App} {request : Request} {fold : FoldRequest}
    (h : app.foldRequest? request = some fold) : request.Reaches .fold := by
  by_contra hnot
  simp [foldRequest?, hnot] at h

/-- The request asks for ranges, its body is in order, and it names a language that is not
supported. -/
def App.refuses (app : App) (request : Request) : Bool :=
  (app.foldRequest? request).any fun fold =>
    fold.language.any fun name => (Language.ofName? name).isNone

namespace Response

/-- The ranges of a document that a good answer holds. -/
def answer? (response : Response) : Option FoldAnswer :=
  match response.content with
  | .fold answer => if response.status = 200 then some answer else none
  | _ => none

/-- The label under which an answer to a request for ranges is counted. -/
def foldStatus (response : Response) : String :=
  if response.status = 200 then "success"
  else if response.status = 400 then "invalid_language"
  else "error"

/-- The number of lines that is noted for an answer. -/
def lineCount (response : Response) : Nat :=
  (response.answer?.map (·.lineCount)).getD 0

/-- The categories that are noted for an answer. -/
def categories (response : Response) : List String :=
  (response.answer?.map fun answer => answer.ranges.map (·.category)).getD []

/-- The response without the time that it took. -/
def undated (response : Response) : Response :=
  match response.content with
  | .fold answer => ⟨response.status, .fold { answer with time := Binary64.zero }⟩
  | _ => response

@[simp]
theorem status_undated (response : Response) : response.undated.status = response.status := by
  unfold undated
  split <;> rfl

/-- Only the time of an answer is forgotten. -/
theorem answer?_undated (response : Response) :
    response.undated.answer? =
      response.answer?.map fun answer => { answer with time := Binary64.zero } := by
  rcases response with ⟨status, content⟩
  cases content with
  | fold answer => by_cases hstatus : status = 200 <;> simp [undated, answer?, hstatus]
  | health | metrics | detail | problems | unsendable => rfl

@[simp]
theorem foldStatus_undated (response : Response) :
    response.undated.foldStatus = response.foldStatus := by
  simp [foldStatus]

@[simp]
theorem lineCount_undated (response : Response) :
    response.undated.lineCount = response.lineCount := by
  rw [lineCount, answer?_undated, Option.map_map]
  rfl

@[simp]
theorem categories_undated (response : Response) :
    response.undated.categories = response.categories := by
  rw [categories, answer?_undated, Option.map_map]
  rfl

end Response

namespace App

/-- The label under which reports on the health of the service are counted. -/
def healthLabel : ResponseLabel :=
  ⟨"/health", "GET", 200⟩

/-- The answer to a request for ranges, if the request makes one; the metrics play no part in it. -/
def foldResponse? (app : App) (entry : Request × Binary64) : Option Response :=
  (app.foldRequest? entry.1).map fun fold => (app.fold {} fold entry.1.fault entry.2).1

/-- What goes wrong while the document of a request is judged, if anything does. -/
def judgementFault? (app : App) (request : Request) : Option String :=
  (app.foldRequest? request).bind fun fold =>
    let document := Document.ofText fold.text.toList
    document.blocks.findSome? fun block =>
      match (app.classifierFor fold).explain block document with
      | .ok _ => none
      | .error missing => some missing.message

/-- Nothing goes wrong while a document is judged. -/
theorem judgementFault?_eq_none (app : App) (request : Request) :
    app.judgementFault? request = none := by
  rw [judgementFault?, Option.bind_eq_none_iff]
  intro fold _
  rw [List.findSome?_eq_none_iff]
  intro block hblock
  rcases Classifier.explain_isOk (app.classifierFor fold) hblock with ⟨outcome, houtcome⟩
  rw [houtcome]

/-! ## What one request does -/

/-- The answer to a request for ranges does not depend on the metrics, and the metrics note it. -/
theorem fold_eq (app : App) (metrics : Metrics) (fold : FoldRequest) (fault : Option String)
    (elapsed : Binary64) :
    app.fold metrics fold fault elapsed =
      let response := (app.fold {} fold fault elapsed).1
      (response, (metrics.recordFold response.foldStatus elapsed
        (Binary64.ofInt response.lineCount) response.categories).recordResponse
          (foldLabel response.status)) := by
  unfold App.fold
  cases languageOf fold with
  | error name => rfl
  | ok language =>
    cases fault with
    | some message => rfl
    | none => rfl

/-- A request that reaches an endpoint is answered there. -/
theorem handle_of_reaches (app : App) (metrics : Metrics) (request : Request) (elapsed : Binary64)
    (endpoint : Endpoint) : request.Reaches endpoint → app.handle metrics request elapsed =
      match endpoint with
      | .fold =>
          match FoldRequest.ofBody app.limits request.body with
          | .ok fold => app.fold metrics fold request.fault elapsed
          | .error fault => (reject fault, metrics)
      | .health => (⟨200, .health app.policy app.logLevel⟩, metrics.recordResponse healthLabel)
      | .metrics => (⟨200, .metrics (Exposition.lines metrics)⟩, metrics) := by
  intro h
  rw [handle, h.1]
  dsimp only
  rw [if_pos h.2]
  rfl

/-- A request that reaches no endpoint is turned away. -/
theorem handle_of_not_reaches {request : Request} (h : ∀ endpoint, ¬ request.Reaches endpoint)
    (app : App) (metrics : Metrics) (elapsed : Binary64) :
    (app.handle metrics request elapsed).1.answer? = none ∧
      (app.handle metrics request elapsed).2 = metrics := by
  rcases hendpoint : endpoint? request.path with _ | endpoint
  · rw [handle, hendpoint]
    exact ⟨rfl, rfl⟩
  · rw [handle, hendpoint]
    dsimp only
    rw [if_neg fun hmethod => h endpoint ⟨hendpoint, hmethod⟩]
    exact ⟨rfl, rfl⟩

/-- A request for ranges is answered and noted, a report on health is counted, and nothing else
changes the metrics or answers with ranges. -/
theorem handle_cases (app : App) (metrics : Metrics) (request : Request) (elapsed : Binary64) :
    (∃ fold, app.foldRequest? request = some fold ∧ ¬ request.Reaches .health ∧
      app.handle metrics request elapsed = app.fold metrics fold request.fault elapsed) ∨
    (app.foldRequest? request = none ∧ request.Reaches .health ∧
      app.handle metrics request elapsed =
        (⟨200, .health app.policy app.logLevel⟩, metrics.recordResponse healthLabel)) ∨
    (app.foldRequest? request = none ∧ ¬ request.Reaches .health ∧
      (app.handle metrics request elapsed).1.answer? = none ∧
      (app.handle metrics request elapsed).2 = metrics) := by
  by_cases hreaches : ∃ endpoint, request.Reaches endpoint
  · rcases hreaches with ⟨endpoint, hreaches⟩
    have hother {other : Endpoint} (hne : endpoint ≠ other) : ¬ request.Reaches other :=
      fun hreaches' => hne (hreaches.endpoint_eq hreaches')
    have hhandle := handle_of_reaches app metrics request elapsed endpoint hreaches
    cases endpoint with
    | fold =>
      rcases hbody : FoldRequest.ofBody app.limits request.body with fault | fold
      · refine Or.inr (Or.inr ⟨?_, hother (by simp), ?_⟩)
        · rw [foldRequest?, if_pos hreaches, hbody]
          rfl
        · rw [hhandle, hbody]
          cases fault <;> exact ⟨rfl, rfl⟩
      · refine Or.inl ⟨fold, ?_, hother (by simp), ?_⟩
        · rw [foldRequest?, if_pos hreaches, hbody]
          rfl
        · rw [hhandle, hbody]
    | health =>
      exact Or.inr (Or.inl ⟨if_neg (hother (by simp)), hreaches, hhandle⟩)
    | metrics =>
      refine Or.inr (Or.inr ⟨if_neg (hother (by simp)), hother (by simp), ?_⟩)
      rw [hhandle]
      exact ⟨rfl, rfl⟩
  · have hnone : ∀ endpoint, ¬ request.Reaches endpoint := not_exists.1 hreaches
    exact Or.inr (Or.inr ⟨if_neg (hnone .fold), hnone .health,
      handle_of_not_reaches hnone app metrics elapsed⟩)

/-! ## What the metrics tell -/

end App

/-- The metrics tell of the given answers to requests for ranges, of so many reports on health, and
of nothing else. -/
structure Metrics.Accounts (metrics : Metrics) (answered : List Response) (reports : Nat) :
    Prop where
  requests : metrics.foldRequests = (answered.map (·.foldStatus)).foldl Counter.increment {}
  durations : ∃ times : List Binary64, (∀ time ∈ times, time ≠ .undefined) ∧
    times.length = answered.length ∧
      metrics.foldDuration = times.foldl Histogram.observe (.ofBounds durationBounds)
  lines : metrics.documentLines =
    (answered.map fun response => Binary64.ofInt response.lineCount).foldl Histogram.observe
      (.ofBounds lineBounds)
  ranges : metrics.rangesFound = (answered.flatMap (·.categories)).foldl Counter.increment {}
  responses : ∀ label, metrics.responses.count label = Binary64.tally
    ((answered.countP fun response => App.foldLabel response.status = label) +
      if label = App.healthLabel then reports else 0)

namespace Metrics.Accounts

variable {metrics : Metrics} {answered : List Response} {reports : Nat}

/-- Metrics that were reset tell of nothing. -/
theorem reset : Metrics.Accounts {} [] 0 where
  requests := rfl
  durations := ⟨[], by simp, rfl, rfl⟩
  lines := rfl
  ranges := rfl
  responses label := by simp [Counter.count]

/-- One more response under a label is one more event there and none elsewhere. -/
theorem count_recordResponse {label other : ResponseLabel} {events : Nat}
    (h : metrics.responses.count other = Binary64.tally events) :
    (metrics.recordResponse label).responses.count other =
      Binary64.tally (events + if other = label then 1 else 0) := by
  refine (Counter.count_increment _ _ _).trans ?_
  by_cases hother : other = label
  · rw [if_pos hother, if_pos hother, h, Binary64.tally_add_one]
  · rw [if_neg hother, if_neg hother, h, Nat.add_zero]

/-- An answer to a request for ranges is added to what the metrics tell of. -/
theorem fold (h : metrics.Accounts answered reports) (response : Response) {elapsed : Binary64}
    (helapsed : elapsed ≠ .undefined) :
    ((metrics.recordFold response.foldStatus elapsed (Binary64.ofInt response.lineCount)
      response.categories).recordResponse (App.foldLabel response.status)).Accounts
        (answered ++ [response]) reports where
  requests := by
    rw [List.map_append, List.foldl_append, ← h.requests]
    rfl
  durations := by
    rcases h.durations with ⟨times, htimes, hlength, hduration⟩
    refine ⟨times ++ [elapsed], ?_, by simp [hlength], ?_⟩
    · simpa [or_imp, forall_and] using ⟨htimes, helapsed⟩
    · rw [List.foldl_append, ← hduration]
      rfl
  lines := by
    rw [List.map_append, List.foldl_append, ← h.lines]
    rfl
  ranges := by
    rw [List.flatMap_append, List.foldl_append, ← h.ranges, List.flatMap_singleton]
    rfl
  responses label := by
    refine (count_recordResponse (h.responses label)).trans (congrArg _ ?_)
    rw [List.countP_append, List.countP_singleton]
    by_cases hlabel : App.foldLabel response.status = label
    · simp [hlabel]
      omega
    · simp [hlabel, Ne.symm hlabel]

/-- A report on health is added to what the metrics tell of. -/
theorem report (h : metrics.Accounts answered reports) :
    (metrics.recordResponse App.healthLabel).Accounts answered (reports + 1) where
  requests := h.requests
  durations := h.durations
  lines := h.lines
  ranges := h.ranges
  responses label := by
    rw [count_recordResponse (h.responses label), Nat.add_assoc]
    by_cases hlabel : label = App.healthLabel <;> simp [hlabel]

end Metrics.Accounts

namespace App

/-- One request adds its answer, if it is one with ranges, and its report, if it asks for one. -/
theorem accounts_handle {metrics : Metrics} {answered : List Response} {reports : Nat}
    (h : metrics.Accounts answered reports) (app : App) (request : Request) {elapsed : Binary64}
    (helapsed : elapsed ≠ .undefined) :
    (app.handle metrics request elapsed).2.Accounts
      (answered ++ (app.foldResponse? (request, elapsed)).toList)
      (reports + if request.Reaches .health then 1 else 0) := by
  rcases handle_cases app metrics request elapsed with ⟨fold, hfold, hhealth, heq⟩ |
    ⟨hfold, hhealth, heq⟩ | ⟨hfold, hhealth, -, heq⟩
  · rw [heq, fold_eq, foldResponse?, hfold, if_neg hhealth]
    exact h.fold _ helapsed
  · rw [heq, foldResponse?, hfold, if_pos hhealth]
    simpa using h.report
  · rw [heq, foldResponse?, hfold, if_neg hhealth]
    simpa using h

/-- A sequence of requests adds the answers with ranges in order, and the reports. -/
theorem accounts_run_from {metrics : Metrics} {answered : List Response} {reports : Nat}
    (h : metrics.Accounts answered reports) (app : App) {requests : List (Request × Binary64)}
    (htimes : ∀ entry ∈ requests, entry.2 ≠ .undefined) :
    (app.run metrics requests).2.Accounts (answered ++ requests.filterMap app.foldResponse?)
      (reports + requests.countP fun entry => entry.1.Reaches .health) := by
  -- What the metrics tell of is what each request hands on to the next.
  induction requests generalizing metrics answered reports with
  | nil => simpa [run] using h
  | cons entry requests ih =>
    rcases entry with ⟨request, elapsed⟩
    rcases List.forall_mem_cons.1 htimes with ⟨helapsed, htimes⟩
    have hnext := ih (accounts_handle h app request helapsed) htimes
    have hanswered : answered ++ ((request, elapsed) :: requests).filterMap app.foldResponse? =
        answered ++ (app.foldResponse? (request, elapsed)).toList ++
          requests.filterMap app.foldResponse? := by
      cases hresponse : app.foldResponse? (request, elapsed) <;> simp [hresponse]
    have hreports : reports + ((request, elapsed) :: requests).countP
        (fun entry => entry.1.Reaches .health) =
          reports + (if request.Reaches .health then 1 else 0) +
            requests.countP fun entry => entry.1.Reaches .health := by
      rw [List.countP_cons]
      by_cases hhealth : request.Reaches .health <;> simp [hhealth]
      omega
    rw [run, hanswered, hreports]
    exact hnext

/-- After a sequence of requests to a service whose metrics were reset, the metrics tell of the
answers with ranges, of the reports on health, and of nothing else. -/
theorem accounts_run (app : App) {requests : List (Request × Binary64)}
    (htimes : ∀ entry ∈ requests, entry.2 ≠ .undefined) :
    (app.run {} requests).2.Accounts (requests.filterMap app.foldResponse?)
      (requests.countP fun entry => entry.1.Reaches .health) := by
  simpa using accounts_run_from Metrics.Accounts.reset app htimes

/-- The good answers of a sequence of requests are those to its requests for ranges. -/
theorem answers_run (app : App) (metrics : Metrics) (requests : List (Request × Binary64)) :
    (app.run metrics requests).1.filterMap Response.answer? =
      (requests.filterMap app.foldResponse?).filterMap Response.answer? := by
  induction requests generalizing metrics with
  | nil => rfl
  | cons entry requests ih =>
    rcases entry with ⟨request, elapsed⟩
    have hfirst : (app.handle metrics request elapsed).1.answer? =
        (app.foldResponse? (request, elapsed)).bind Response.answer? := by
      rcases handle_cases app metrics request elapsed with ⟨fold, hfold, -, heq⟩ |
        ⟨hfold, -, heq⟩ | ⟨hfold, -, hanswer, -⟩
      · rw [heq, fold_eq, foldResponse?, hfold]
        rfl
      · rw [heq, foldResponse?, hfold]
        rfl
      · rw [hanswer, foldResponse?, hfold]
        rfl
    rw [run, List.filterMap_filterMap, List.filterMap_cons, List.filterMap_cons, hfirst, ih,
      List.filterMap_filterMap]

end App

/-! ## Numbers over all answers -/

namespace Response

/-- The lines noted for answers are those of the good ones. -/
theorem sum_lineCount (answered : List Response) :
    (answered.map lineCount).sum =
      ((answered.filterMap answer?).map fun answer => answer.lineCount).sum := by
  induction answered with
  | nil => rfl
  | cons response answered ih =>
    cases hanswer : response.answer? <;> simp [lineCount, hanswer, ih]

/-- The categories noted for answers are those of the ranges in the good ones. -/
theorem flatMap_categories (answered : List Response) :
    answered.flatMap categories =
      ((answered.filterMap answer?).flatMap fun answer => answer.ranges).map (·.category) := by
  induction answered with
  | nil => rfl
  | cons response answered ih =>
    cases hanswer : response.answer? <;> simp [categories, hanswer, ih]

/-- The answer is a good one, or it refuses a language. -/
def IsSettled (response : Response) : Prop :=
  (response.status = 200 ∧ response.answer?.isSome = true) ∨
    (response.status = 400 ∧ response.answer? = none)

variable {answered : List Response}

/-- Where all answers are settled, the good ones are those with ranges. -/
theorem countP_status_ok (h : ∀ response ∈ answered, response.IsSettled) :
    (answered.countP fun response => response.status = 200) =
      (answered.filterMap answer?).length := by
  rw [List.length_filterMap_eq_countP]
  refine List.countP_congr fun response hresponse => ?_
  rcases h response hresponse with ⟨hstatus, hanswer⟩ | ⟨hstatus, hanswer⟩
  · simp [hstatus, hanswer]
  · simp [hstatus, hanswer]

/-- Where all answers are settled, each is a good one or refuses a language. -/
theorem length_of_isSettled (h : ∀ response ∈ answered, response.IsSettled) :
    answered.length = (answered.countP fun response => response.status = 200) +
      answered.countP fun response => response.status = 400 := by
  rw [List.length_eq_countP_add_countP fun response : Response => response.status = 200]
  congr 1
  refine List.countP_congr fun response hresponse => ?_
  rcases h response hresponse with ⟨hstatus, -⟩ | ⟨hstatus, -⟩ <;> simp [hstatus]

/-- Where all answers are settled, the statuses are told apart by their labels. -/
theorem countP_foldStatus (h : ∀ response ∈ answered, response.IsSettled) :
    (answered.countP fun response => response.foldStatus = "success") =
        (answered.countP fun response => response.status = 200) ∧
      (answered.countP fun response => response.foldStatus = "invalid_language") =
        (answered.countP fun response => response.status = 400) ∧
      (answered.countP fun response => response.foldStatus = "error") = 0 := by
  refine ⟨List.countP_congr fun response hresponse => ?_,
    List.countP_congr fun response hresponse => ?_,
    List.countP_eq_zero.2 fun response hresponse => ?_⟩
  all_goals
    rcases h response hresponse with ⟨hstatus, -⟩ | ⟨hstatus, -⟩ <;> simp [foldStatus, hstatus]

end Response

/-! ## What can be read off -/

namespace Metrics

/-- The two metrics show the same counts, but for those of durations. -/
structure ShowsSame (metrics others : Metrics) : Prop where
  requests : ∀ status, metrics.foldRequests.count status = others.foldRequests.count status
  lines : metrics.documentLines.buckets = others.documentLines.buckets
  ranges : ∀ category, metrics.rangesFound.count category = others.rangesFound.count category
  responses : ∀ label, metrics.responses.count label = others.responses.count label

namespace Accounts

variable {metrics others : Metrics} {answered answered' : List Response} {reports : Nat}

/-- The count of requests under a status. -/
theorem count_requests (h : metrics.Accounts answered reports) (status : String) :
    metrics.foldRequests.count status =
      Binary64.tally (answered.countP fun response => response.foldStatus = status) := by
  have hreset : ({} : Counter String).count status = Binary64.tally 0 := rfl
  rw [h.requests, Counter.count_foldl_increment hreset, Nat.zero_add, List.count, List.countP_map]
  rfl

/-- The count of ranges under a category. -/
theorem count_ranges (h : metrics.Accounts answered reports) (category : String) :
    metrics.rangesFound.count category =
      Binary64.tally ((answered.flatMap (·.categories)).count category) := by
  have hreset : ({} : Counter String).count category = Binary64.tally 0 := rfl
  rw [h.ranges, Counter.count_foldl_increment hreset, Nat.zero_add]

section Exact

variable (h : metrics.Accounts answered reports) (hbound : answered.length ≤ powerOfTwo 53)
include h hbound

/-- Up to the bound, the counts of requests under all statuses are the number of the answers. -/
theorem total_requests :
    metrics.foldRequests.total = Binary64.ofInt (answered.length : Int) := by
  have hall := Counter.countInAll_foldl_increment (Tallies.countInAll_zero [])
    (answered.map (·.foldStatus))
  rw [Nat.zero_add, List.length_map] at hall
  rw [h.requests]
  exact hall.total_eq hbound

/-- Up to the bound, one duration is observed for each answer. -/
theorem count_durations :
    metrics.foldDuration.count = Binary64.ofInt (answered.length : Int) := by
  rcases h.durations with ⟨times, htimes, hlength, hduration⟩
  rw [hduration, ← hlength]
  exact (Histogram.countInAll_foldl_observe durationBounds htimes).total_eq (hlength ▸ hbound)

/-- Up to the bound, one document is observed for each answer. -/
theorem count_lines :
    metrics.documentLines.count = Binary64.ofInt (answered.length : Int) := by
  have hdefined : ∀ lines ∈ answered.map fun response => Binary64.ofInt response.lineCount,
      lines ≠ .undefined := by
    intro lines hlines
    rcases List.mem_map.1 hlines with ⟨response, -, rfl⟩
    exact Binary64.ofInt_ne_undefined response.lineCount
  have hall := Histogram.countInAll_foldl_observe lineBounds hdefined
  rw [List.length_map] at hall
  rw [h.lines]
  exact hall.total_eq hbound

end Exact

/-- The sum of the lines is exact as long as it is at most two to the power of 53. -/
theorem sum_lines (h : metrics.Accounts answered reports)
    (hbound : (answered.map Response.lineCount).sum ≤ powerOfTwo 53) :
    metrics.documentLines.sum =
      Binary64.ofInt ((answered.map Response.lineCount).sum : Nat) := by
  have hzero : Binary64.ofInt ((0 : Nat) : Int) = Binary64.zero := rfl
  have hsum := Binary64.foldl_add_ofInt 0 (answered.map Response.lineCount) (by omega)
  rw [Nat.zero_add, List.map_map, hzero] at hsum
  rw [h.lines, Histogram.sum_foldl_observe]
  exact hsum

/-- Where all answers are settled, no response is counted as an error. -/
theorem responses_eq_zero (h : metrics.Accounts answered reports)
    (hsettled : ∀ response ∈ answered, response.IsSettled) {label : ResponseLabel}
    (hstatus : label.status = 500) : metrics.responses.count label = .zero := by
  have hhealth : label ≠ App.healthLabel := by
    intro heq
    rw [heq] at hstatus
    exact absurd hstatus (by decide)
  have hnone : (answered.countP fun response => App.foldLabel response.status = label) = 0 := by
    rw [List.countP_eq_zero]
    intro response hresponse
    have hne : App.foldLabel response.status ≠ label := by
      intro heq
      have hcode : response.status = 500 := by rw [← hstatus, ← heq]; rfl
      rcases hsettled response hresponse with ⟨hok, -⟩ | ⟨hno, -⟩ <;> omega
    simpa using hne
  rw [h.responses, if_neg hhealth, hnone, Binary64.tally_zero]

/-- Metrics that tell of the same answers in another order show the same numbers. -/
theorem showsSame (h : metrics.Accounts answered reports) (h' : others.Accounts answered' reports)
    (hperm : answered.Perm answered') : metrics.ShowsSame others where
  requests status := by rw [h.count_requests, h'.count_requests, hperm.countP_eq]
  lines := by
    rw [h.lines, h'.lines]
    exact Histogram.buckets_eq_of_perm _ (hperm.map _)
  ranges category := by rw [h.count_ranges, h'.count_ranges, (hperm.flatMap_right _).count_eq]
  responses label := by rw [h.responses, h'.responses, hperm.countP_eq]

/-- The metrics tell nothing of the time that an answer took. -/
theorem undated (h : metrics.Accounts answered reports) :
    metrics.Accounts (answered.map Response.undated) reports where
  requests := by
    rw [h.requests, List.map_map]
    simp [Function.comp_def]
  durations := by simpa using h.durations
  lines := by
    rw [h.lines, List.map_map]
    simp [Function.comp_def]
  ranges := by
    rw [h.ranges, List.flatMap_map]
    simp
  responses label := by
    rw [h.responses, List.countP_map]
    simp [Function.comp_def]

end Accounts
end Metrics

namespace App

/-! ## Sequences of requests -/

/-- A language is refused exactly if it is named and not supported. -/
theorem languageOf_eq_error_iff (fold : FoldRequest) :
    (∃ name, languageOf fold = .error name) ↔
      (fold.language.any fun name => (Language.ofName? name).isNone) = true := by
  unfold languageOf
  cases fold.language with
  | none => simp
  | some name => cases hname : Language.ofName? name <;> simp [hname]

/-- If nothing goes wrong, a request for ranges is settled, and it is refused exactly if it names a
language that is not supported. -/
theorem foldResponse?_settled (app : App) {entry : Request × Binary64} {response : Response}
    (hfault : entry.1.fault = none) (h : app.foldResponse? entry = some response) :
    response.IsSettled ∧ (response.status = 400 ↔ app.refuses entry.1 = true) := by
  rcases Option.map_eq_some_iff.1 h with ⟨fold, hfold, rfl⟩
  have hlanguage := languageOf_eq_error_iff fold
  rw [refuses, hfold, Option.any_some, ← hlanguage, hfault]
  unfold App.fold
  cases hname : languageOf fold with
  | error name => simp [refuse, Response.IsSettled, Response.answer?]
  | ok language => simp [Response.IsSettled, Response.answer?]

/-- If nothing goes wrong, as many requests are refused as name a language that is not supported. -/
theorem countP_status_refused (app : App) {requests : List (Request × Binary64)}
    (hfault : ∀ entry ∈ requests, entry.1.fault = none) :
    ((requests.filterMap app.foldResponse?).countP fun response => response.status = 400) =
      requests.countP fun entry => app.refuses entry.1 := by
  rw [List.countP_filterMap]
  refine List.countP_congr fun entry hentry => ?_
  rcases hresponse : app.foldResponse? entry with _ | response
  · have hfold : app.foldRequest? entry.1 = none := by simpa [foldResponse?] using hresponse
    simp [refuses, hfold]
  · simpa using (foldResponse?_settled app (hfault entry hentry) hresponse).2

/-- Up to the time that they take, the answers with ranges are those of the requests alone. -/
theorem map_undated_answers (app : App) (requests : List (Request × Binary64)) :
    (requests.filterMap app.foldResponse?).map Response.undated =
      (requests.map Prod.fst).filterMap fun request =>
        app.foldResponse? (request, Binary64.zero) := by
  rw [List.map_filterMap, List.filterMap_map]
  refine List.filterMap_congr fun entry _ => ?_
  rw [Function.comp_apply, foldResponse?, foldResponse?, Option.map_map]
  congr 1
  funext fold
  rw [Function.comp_apply, App.fold, App.fold]
  cases languageOf fold with
  | error name => rfl
  | ok language =>
    cases entry.1.fault with
    | some message => rfl
    | none => rfl

section Reordered

variable {reordered requests : List (Request × Binary64)}
  (hperm : (reordered.map Prod.fst).Perm (requests.map Prod.fst))
include hperm

/-- Requests in another order are answered alike, up to the time that the answers take. -/
theorem undated_answers_perm (app : App) :
    ((reordered.filterMap app.foldResponse?).map Response.undated).Perm
      ((requests.filterMap app.foldResponse?).map Response.undated) := by
  rw [map_undated_answers, map_undated_answers]
  exact hperm.filterMap _

/-- Requests in another order get as many answers with ranges. -/
theorem length_answers_of_perm (app : App) :
    (reordered.filterMap app.foldResponse?).length =
      (requests.filterMap app.foldResponse?).length := by
  simpa using (undated_answers_perm hperm app).length_eq

variable (htimes : ∀ entry ∈ requests, entry.2 ≠ .undefined)
  (htimes' : ∀ entry ∈ reordered, entry.2 ≠ .undefined)
include htimes htimes'

/-- Neither the order of the requests nor the time that each takes shows in the counts. -/
theorem showsSame_run_of_perm (app : App) :
    (app.run {} reordered).2.ShowsSame (app.run {} requests).2 := by
  have hreports : (reordered.countP fun entry => entry.1.Reaches .health) =
      requests.countP fun entry => entry.1.Reaches .health := by
    have hcount := hperm.countP_eq fun request => request.Reaches .health
    simpa only [List.countP_map, Function.comp_def] using hcount
  have hother := (accounts_run app htimes').undated
  rw [hreports] at hother
  exact hother.showsSame (accounts_run app htimes).undated (undated_answers_perm hperm app)

/-- As long as they are exact, neither do they show in the counts of all requests and durations. -/
theorem totals_run_of_perm (app : App)
    (hbound : (requests.filterMap app.foldResponse?).length ≤ powerOfTwo 53) :
    (app.run {} reordered).2.foldRequests.total = (app.run {} requests).2.foldRequests.total ∧
      (app.run {} reordered).2.foldDuration.count = (app.run {} requests).2.foldDuration.count := by
  have hlength := length_answers_of_perm hperm app
  have haccounts := accounts_run app htimes
  have haccounts' := accounts_run app htimes'
  have hbound' : (reordered.filterMap app.foldResponse?).length ≤ powerOfTwo 53 := by omega
  rw [haccounts'.total_requests hbound', haccounts'.count_durations hbound',
    haccounts.total_requests hbound, haccounts.count_durations hbound, hlength]
  exact ⟨rfl, rfl⟩

/-- As long as it is exact, neither do they show in the sum of the lines. -/
theorem sum_lines_run_of_perm (app : App)
    (hbound : ((requests.filterMap app.foldResponse?).map Response.lineCount).sum ≤ powerOfTwo 53) :
    (app.run {} reordered).2.documentLines.sum = (app.run {} requests).2.documentLines.sum := by
  have hsum : ((reordered.filterMap app.foldResponse?).map Response.lineCount).sum =
      ((requests.filterMap app.foldResponse?).map Response.lineCount).sum := by
    have hlines := ((undated_answers_perm hperm app).map Response.lineCount).sum_eq
    simpa [Function.comp_def] using hlines
  rw [(accounts_run app htimes').sum_lines (by omega), (accounts_run app htimes).sum_lines hbound,
    hsum]

end Reordered

/-- An answer about problems of the body, and a request to the metrics, leave the metrics alone. -/
theorem handle_snd_eq_self (app : App) (metrics : Metrics) (request : Request) (elapsed : Binary64)
    (h : (app.handle metrics request elapsed).1.status = 422 ∨
      endpoint? request.path = some .metrics) :
    (app.handle metrics request elapsed).2 = metrics := by
  rcases handle_cases app metrics request elapsed with ⟨fold, hfold, -, heq⟩ |
    ⟨-, hhealth, heq⟩ | ⟨-, -, -, heq⟩
  · exfalso
    rcases h with hstatus | hmetrics
    · rw [heq, App.fold] at hstatus
      cases hname : languageOf fold <;> cases hfault : request.fault <;>
        simp [hname, hfault, refuse] at hstatus
    · have hsame := (reaches_fold hfold).1.symm.trans hmetrics
      simp at hsame
  · exfalso
    rcases h with hstatus | hmetrics
    · simp [heq] at hstatus
    · have hsame := hhealth.1.symm.trans hmetrics
      simp at hsame
  · exact heq

/-- A good request, one with an unknown language, one without a body, and requests for the health
and the metrics of the service. -/
def mixedRequests : List (Request × Binary64) :=
  let body (language : String) : Body :=
    .value (.object [("text", .text "if (p == NULL)\n  return -1;\n\x7d\n"),
      ("language", .text language)])
  [({ method := "POST", path := foldPath, body := body "C" }, Binary64.zero),
    ({ method := "POST", path := foldPath, body := body "cobol" }, Binary64.zero),
    ({ method := "POST", path := foldPath }, Binary64.zero),
    ({ method := "GET", path := "/health" }, Binary64.zero),
    ({ method := "GET", path := "/metrics" }, Binary64.zero)]

/-- A request for the ranges of a document of so many empty lines. -/
def emptyLinesRequest (lines : Nat) : Request :=
  { method := "POST"
    path := foldPath
    body := .value (.object [("text", .text (String.ofList (List.replicate lines '\n')))]) }

/-- The answer has as many lines as the request is made for. -/
theorem foldResponse?_emptyLinesRequest (app : App) (lines : Nat) :
    ∃ ranges, app.foldResponse? (emptyLinesRequest lines, .zero) =
      some ⟨200, .fold ⟨ranges, lines, none, .zero⟩⟩ := by
  have hreaches : (emptyLinesRequest lines).Reaches .fold :=
    ⟨show endpoint? foldPath = some .fold by decide,
      show Text.upper "POST".toList = Endpoint.fold.method.toList by decide⟩
  let request : FoldRequest := { text := String.ofList (List.replicate lines '\n') }
  let document := Document.ofText request.text.toList
  have hrequest : app.foldRequest? (emptyLinesRequest lines) = some request := by
    rw [foldRequest?, if_pos hreaches]
    rfl
  have hlines : document.length = lines := by
    change (Document.ofText (String.ofList (List.replicate lines '\n')).toList).length = lines
    rw [String.toList_ofList]
    clear hreaches hrequest
    induction lines with
    | zero => rfl
    | succ lines ih => simpa [List.replicate_succ, Document.ofText] using ih
  refine ⟨(app.classifierFor request).foldRanges document, ?_⟩
  rw [foldResponse?, hrequest, Option.map_some, App.fold]
  simp only [languageOf, emptyLinesRequest, request]
  exact congrArg (fun count => some (Response.mk 200 (.fold ⟨_, count, none, .zero⟩))) hlines

/-- Requests for the ranges of documents of empty lines, each of which takes no time. -/
def emptyLinesRequests (lines : List Nat) : List (Request × Binary64) :=
  lines.map fun count => (emptyLinesRequest count, .zero)

/-- These requests are all answered, and the answers have as many lines. -/
theorem answers_emptyLinesRequests (app : App) (lines : List Nat) :
    let answered := (emptyLinesRequests lines).filterMap app.foldResponse?
    (answered.filterMap Response.answer?).map (·.lineCount) = lines ∧
      answered.map (·.lineCount) = lines ∧
      answered.map (·.foldStatus) = List.replicate lines.length "success" := by
  induction lines with
  | nil => exact ⟨rfl, rfl, rfl⟩
  | cons count lines ih =>
    rcases foldResponse?_emptyLinesRequest app count with ⟨ranges, hresponse⟩
    simp only [emptyLinesRequests, List.map_cons, List.filterMap_cons, hresponse] at ih ⊢
    exact ⟨congrArg _ ih.1, congrArg _ ih.2.1, congrArg _ ih.2.2⟩

/-- The numbers of lines that the answers to requests tell of. -/
def lineCounts (app : App) (requests : List (Request × Binary64)) : List Nat :=
  ((app.run {} requests).1.filterMap Response.answer?).map (·.lineCount)

section EmptyLines

variable (app : App) (lines : List Nat)

/-- Nothing goes wrong with these requests. -/
theorem emptyLinesRequests_valid :
    ∀ entry ∈ emptyLinesRequests lines,
      entry.1.fault = app.judgementFault? entry.1 ∧ entry.2 ≠ .undefined := by
  intro entry hentry
  rcases List.mem_map.1 hentry with ⟨count, -, rfl⟩
  rw [judgementFault?_eq_none]
  exact ⟨rfl, by simp [Binary64.zero]⟩

/-- The answers tell of the lines for which these requests are made. -/
theorem lineCounts_emptyLinesRequests : app.lineCounts (emptyLinesRequests lines) = lines := by
  rw [lineCounts, answers_run]
  exact (answers_emptyLinesRequests app lines).1

/-- The metrics tell of these requests. -/
theorem accounts_emptyLinesRequests :
    ∃ reports, (app.run {} (emptyLinesRequests lines)).2.Accounts
      ((emptyLinesRequests lines).filterMap app.foldResponse?) reports :=
  ⟨_, accounts_run app fun entry hentry => (emptyLinesRequests_valid app lines entry hentry).2⟩

/-- The sum of the lines is rounded after each document. -/
theorem sum_emptyLinesRequests :
    (app.run {} (emptyLinesRequests lines)).2.documentLines.sum =
      (lines.map fun count : Nat => Binary64.ofInt count).foldl Binary64.add .zero := by
  rcases accounts_emptyLinesRequests app lines with ⟨reports, haccounts⟩
  rw [haccounts.lines, Histogram.sum_foldl_observe]
  conv_rhs => rw [← (answers_emptyLinesRequests app lines).2.1, List.map_map]
  rfl

/-- The count of these requests goes as far as counts go. -/
theorem count_emptyLinesRequests :
    (app.run {} (emptyLinesRequests lines)).2.foldRequests.count "success" =
      .tally lines.length := by
  rcases accounts_emptyLinesRequests app lines with ⟨reports, haccounts⟩
  have hreset : ({} : Counter String).count "success" = Binary64.tally 0 := rfl
  rw [haccounts.requests, (answers_emptyLinesRequests app lines).2.2,
    Counter.count_foldl_increment hreset, List.count_replicate_self, Nat.zero_add]

end EmptyLines

end App
end Service
end BranchFold
