import BranchFold.Service.Metrics
import BranchFold.Text.Blank

/-!
# Exposition of metrics

The metrics are published as lines of text, one for each count: a name, labels in braces, and a
number.  A histogram shows how many observations lie below each of its bounds, then their number and
their sum.

Numbers are written in their usual form, except that positive ones from a million on are written
with an exponent, behind a single zero.
-/

namespace BranchFold
namespace Service
namespace Exposition

/-- A number from a million on: one digit, a point, the other digits but for zeros at their end, and
the exponent. -/
def large (whole fraction : Text) : Text :=
  let digits := whole ++ fraction
  let pointed := digits.take 1 ++ '.' :: digits.drop 1
  let mantissa := pointed.reverse.dropWhile fun c => c == '0' || c == '.'
  mantissa.reverse ++ "e+0".toList ++ Nat.toDigits 10 (whole.length - 1)

/-- The text of a number. -/
def number (x : Binary64) : String :=
  match x with
  | .infinite negative => if negative then "-Inf" else "+Inf"
  | .undefined => "NaN"
  | .finite negative _ _ =>
      let usual := x.toText
      let whole := usual.takeWhile (· != '.')
      if !negative && whole.length < usual.length && 6 < whole.length then
        String.ofList (large whole (usual.drop (whole.length + 1)))
      else String.ofList usual

/-- One character of a label's value. -/
def escapeChar : Char → Text
  | '\\' => ['\\', '\\']
  | '\n' => ['\\', 'n']
  | '"' => ['\\', '"']
  | c => [c]

/-- A label with its value. -/
def labelText (name value : String) : String :=
  name ++ "=\"" ++ String.ofList (value.toList.flatMap escapeChar) ++ "\""

/-- A line: a name, labels and a number. -/
def line (name : String) (labels : List (String × String)) (value : String) : String :=
  let inside := labels.map fun (label, text) => labelText label text
  let braces := if labels.isEmpty then "" else "\x7b" ++ String.intercalate "," inside ++ "\x7d"
  name ++ braces ++ " " ++ value

/-- The lines of a counter. -/
def counter {Label : Type} (name : String) (labels : Label → List (String × String))
    (c : Counter Label) : List String :=
  c.entries.map fun (label, count) => line name (labels label) (number count)

/-- The lines of a histogram: how many observations each bound holds, their number and their
sum. -/
def histogram (name : String) (h : Histogram) : List String :=
  ((h.buckets.runningFrom .zero).map fun (bound, count) =>
      line (name ++ "_bucket") [("le", number bound)] (number count)) ++
    [line (name ++ "_count") [] (number h.count), line (name ++ "_sum") [] (number h.sum)]

/-- The labels of a response, in the order of their names. -/
def responseLabels (label : ResponseLabel) : List (String × String) :=
  [("endpoint", label.endpoint), ("method", label.method), ("status_code", toString label.status)]

/-- The lines of all metrics. -/
def lines (metrics : Metrics) : List String :=
  counter "foldeb_fold_requests_total" (fun status => [("status", status)]) metrics.foldRequests ++
    histogram "foldeb_fold_duration_seconds" metrics.foldDuration ++
    histogram "foldeb_document_lines" metrics.documentLines ++
    counter "foldeb_ranges_found_total" (fun category => [("category", category)])
      metrics.rangesFound ++
    counter "foldeb_http_responses_total" responseLabels metrics.responses

end Exposition
end Service
end BranchFold
