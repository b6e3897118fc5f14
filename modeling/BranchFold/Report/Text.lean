import BranchFold.Report.Record
import BranchFold.Text.Numeral

/-!
# Reports as text

A report for people lists each file that has ranges, with one line for each range, and ends with a
summary.  Line numbers start at one.  The header lines of ranges are shown where the lines of their
files are at hand.  Not every report can be written: a number may have too many digits, and a header
may lie before the start of its file.

Main definitions:

- {lit}`ReportFault`: why a report cannot be written.
- {lit}`ScanReport.text`: the report as text.
- {lit}`ScanReport.readHeaders`: the lines of the files that have ranges.
-/

namespace BranchFold

/-- The lines of files, by path. -/
abbrev LinesByPath := List (String × Document)

/-- Marks around a piece of text that set its colour. -/
structure Paint where
  path : String := ""
  span : String := ""
  reason : String := ""
  plain : String := ""

namespace Paint

/-- No colours. -/
def none : Paint := {}

/-- The colours of a terminal. -/
def terminal : Paint :=
  { path := "\x1b[36m", span := "\x1b[33m", reason := "\x1b[90m", plain := "\x1b[0m" }

end Paint

/-- Why a report cannot be written. -/
inductive ReportFault where
  /-- A number has too many digits. -/
  | numeral
  /-- A header lies before the start of its file. -/
  | line (missing : MissingLine)
  deriving DecidableEq, Repr

namespace ReportFault

/-- What is said about a report that cannot be written. -/
def message : ReportFault → String
  | numeral => Text.numeralComplaint
  | line missing => missing.message

end ReportFault

/-- A number as a report shows it. -/
def shownNumber (n : Int) : Except ReportFault String :=
  match Text.ofInt? n with
  | some numeral => .ok numeral
  | none => .error .numeral

namespace RangeRecord

/-- The lines of a range, counted from one. -/
def span (range : RangeRecord) : Except ReportFault String := do
  let first ← shownNumber (range.first + 1)
  let last ← shownNumber (range.last + 1)
  return first ++ "-" ++ last

/-- Why a range was accepted. -/
def reason (range : RangeRecord) : String :=
  "(" ++ range.category ++ ": " ++ range.rule ++ ")"

/-- The header line of a range as it is shown, if the lines of its file are at hand and reach that
far; negative line numbers count from the end, and one beyond the start is a fault. -/
def shownHeader (range : RangeRecord) (lines : Option Document) :
    Except MissingLine (Option Text) :=
  match lines, range.header with
  | some document, some number =>
      if number < document.length then
        match document.line? number with
        | some line => .ok (some (Text.trim line))
        | none => .error ⟨number⟩
      else .ok none
  | _, _ => .ok none

/-- The line of a report for a range. -/
def entry (paint : Paint) (lines : Option Document) (range : RangeRecord) :
    Except ReportFault String := do
  let span ← range.span
  let header ← (range.shownHeader lines).mapError .line
  return "  " ++ paint.span ++ span ++ paint.plain ++ " " ++ paint.reason ++ range.reason ++
    paint.plain ++ (match header with
      | some text => "  " ++ String.ofList text
      | none => "")

end RangeRecord

namespace FileRecord

/-- The lines of a report for a file: its path and one line for each range, if it has ranges. -/
def entries (paint : Paint) (shown : LinesByPath) (file : FileRecord) :
    Except ReportFault (List String) :=
  if file.ranges.isEmpty then .ok []
  else (file.ranges.mapM (RangeRecord.entry paint (shown.lookup file.path))).map fun lines =>
    (paint.path ++ file.path ++ paint.plain) :: lines

end FileRecord

namespace ScanReport

/-- The files that have ranges. -/
def filesWithRanges (report : ScanReport) : List FileRecord :=
  report.files.filter fun file => !file.ranges.isEmpty

/-- The last line of a report. -/
def summary (report : ScanReport) : Except ReportFault String :=
  if report.count = 0 then .ok "No error-handling branches found"
  else (shownNumber report.count).map fun count =>
    "Found " ++ count ++ " error-handling branches in " ++
      toString report.filesWithRanges.length ++ " files"

/-- The lines of a report. -/
def lines (paint : Paint) (shown : LinesByPath) (report : ScanReport) :
    Except ReportFault (List String) := do
  let parts ← report.files.mapM (FileRecord.entries paint shown)
  let summary ← report.summary
  return parts.flatten ++ [summary]

/-- The report as text. -/
def text (paint : Paint) (shown : LinesByPath) (report : ScanReport) : Except ReportFault String :=
  (report.lines paint shown).map (String.intercalate "\n")

/-! ## Header lines -/

/-- What has been read for the header lines of a report, and the warnings about files that could not
be read. -/
structure Headers where
  lines : LinesByPath := []
  warnings : List String := []
  deriving DecidableEq, Repr

/-- The warning about a file that could not be read again. -/
def rereadWarning (path : String) (fault : ReadFault) : String :=
  "Warning: cannot re-read " ++ path ++ ": " ++ fault.message

/-- Read one more file; a fault that is not one of the file stops the reading. -/
def readHeader (fs : FileSystem) (headers : Headers) (file : FileRecord) :
    Except ReadFault Headers :=
  match fs.readDocument file.path with
  | .ok document => .ok { headers with lines := (file.path, document) :: headers.lines }
  | .error fault =>
      if fault.isReported then
        .ok { headers with warnings := headers.warnings ++ [rereadWarning file.path fault] }
      else .error fault

/-- The lines of the files that have ranges. -/
def readHeaders (fs : FileSystem) (report : ScanReport) : Except ReadFault Headers :=
  report.filesWithRanges.foldlM (readHeader fs) {}

end ScanReport
end BranchFold
