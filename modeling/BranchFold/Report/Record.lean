import BranchFold.Scan.Batch
import BranchFold.Schema.Check

/-!
# Scan reports

What a scan tells its user: the ranges of each file, the files that were skipped, and the files that
could not be read.  A report is built from a scan, written as a structured value, and may also be
read back from one, whatever its source.

Main definitions:

- {lit}`ScanReport.ofBatch`: the report on a scan.
- {lit}`ScanReport.toValue`: the report as a structured value.
- {lit}`ScanReport.ofValue`: the report that a structured value holds.
-/

namespace BranchFold

open Json (Value)
open Schema (Checked)

/-! ## Ranges -/

/-- One range of a report. -/
structure RangeRecord where
  first : Int
  last : Int
  foldStart : Int
  header : Option Int
  rule : String
  category : String
  deriving DecidableEq, Repr

namespace RangeRecord

/-- The record of a range. -/
def ofRange (range : FoldRange) : RangeRecord :=
  ⟨range.first, range.last, range.foldStart, range.header, range.rule, range.category⟩

/-- The record as a structured value. -/
def toValue (record : RangeRecord) : Value :=
  .object [("start", .int record.first), ("end", .int record.last),
    ("fold_start", .int record.foldStart), ("header_line", .ofOption .int record.header),
    ("rule", .text record.rule), ("category", .text record.category)]

/-- The record that the members of an object hold. -/
def ofMembers (members : List (String × Value)) : Checked RangeRecord :=
  ((((((Checked.apply (.ok mk) (Schema.required members "start" Schema.int)).apply
    (Schema.required members "end" Schema.int)).apply
    (Schema.required members "fold_start" Schema.int)).apply
    (Schema.optional members "header_line" none (Schema.nullable Schema.int))).apply
    (Schema.required members "rule" Schema.string)).apply
    (Schema.required members "category" Schema.string))

/-- The record that a structured value holds. -/
def ofValue : Value → Checked RangeRecord
  | .object members => ofMembers members
  | _ => .fail (.modelType "FoldingRangeResult")

/-- The record of a range whose fields are given as structured values: folding starts at the header,
or at the first line if there is none. -/
def ofFields (first last header rule category : Value) : Checked RangeRecord :=
  let foldStart := match header with
    | .null => first
    | _ => header
  ofMembers [("start", first), ("end", last), ("fold_start", foldStart), ("header_line", header),
    ("rule", rule), ("category", category)]

end RangeRecord

/-! ## Files -/

/-- One file of a report. -/
structure FileRecord where
  path : String
  language : Option String
  lineCount : Int
  ranges : List RangeRecord
  deriving DecidableEq, Repr

namespace FileRecord

/-- The record of the scan of a file. -/
def ofScan (scan : FileScan) : FileRecord :=
  ⟨scan.path, scan.language.map (·.name), scan.lineCount, scan.ranges.map RangeRecord.ofRange⟩

/-- The record as a structured value. -/
def toValue (record : FileRecord) : Value :=
  .object [("path", .text record.path), ("language", .ofOption .text record.language),
    ("line_count", .int record.lineCount), ("ranges", .array (record.ranges.map (·.toValue)))]

/-- The record that a structured value holds. -/
def ofValue : Value → Checked FileRecord
  | .object members =>
      (((Checked.apply (.ok mk) (Schema.required members "path" Schema.string)).apply
        (Schema.optional members "language" none (Schema.nullable Schema.string))).apply
        (Schema.required members "line_count" Schema.int)).apply
        (Schema.optional members "ranges" [] (Schema.list RangeRecord.ofValue))
  | _ => .fail (.modelType "FileScanResponse")

end FileRecord

/-! ## Reports -/

/-- A report on a scan. -/
structure ScanReport where
  files : List FileRecord
  skipped : List String
  /-- The files that could not be read, each as a table of what is known about it. -/
  errors : List (List (String × String))
  count : Int
  totalTime : Binary64
  deriving DecidableEq, Repr

namespace ScanReport

/-- The report on a scan that took so many seconds. -/
def ofBatch (batch : Batch) (totalTime : Binary64) : ScanReport :=
  { files := batch.scanned.map FileRecord.ofScan
    skipped := batch.skipped
    errors := batch.failed.map fun (path, message) => [("path", path), ("error", message)]
    count := batch.rangeCount
    totalTime }

/-- The report as a structured value. -/
def toValue (report : ScanReport) : Value :=
  .object [("files", .array (report.files.map (·.toValue))),
    ("skipped", .array (report.skipped.map .text)),
    ("errors", .array (report.errors.map fun entry =>
      .object (entry.map fun (key, text) => (key, .text text)))),
    ("count", .int report.count), ("total_time", .real report.totalTime)]

/-- The report that a structured value holds. -/
def ofValue : Value → Checked ScanReport
  | .object members =>
      ((((Checked.apply (.ok mk)
        (Schema.optional members "files" [] (Schema.list FileRecord.ofValue))).apply
        (Schema.optional members "skipped" [] (Schema.list Schema.string))).apply
        (Schema.optional members "errors" [] (Schema.list (Schema.dict Schema.string)))).apply
        (Schema.required members "count" Schema.int)).apply
        (Schema.required members "total_time" Schema.float)
  | _ => .fail (.modelType "ScanResponse")

end ScanReport
end BranchFold
