import BranchFold.Command.Outcome
import BranchFold.Json.Writer
import BranchFold.Report.Text

/-!
# The scan command

Scan the files below the given paths and report their ranges, as text or as a structured value.
Files that cannot be read are named on the error output, and the scan then ends badly.
-/

namespace BranchFold
namespace Command
namespace Scan

/-! ## The log -/

/-- What is logged while one file is scanned. -/
def fileLog (fs : FileSystem) (classifier : Classifier) (path : String) : List LogEntry :=
  match fs.readDocument path with
  | .ok document =>
      (document.openNote.toList.map fun note => ⟨.debug, .segmenter, note⟩) ++
        (classifier.acceptedBlocks document).map fun (block, verdict) =>
          ⟨.debug, .finder, Classifier.acceptedNote block verdict⟩
  | .error fault => [⟨.debug, .scanner, "[SCAN] Error: " ++ path ++ ": " ++ fault.message⟩]

/-- What is logged before the first file. -/
def openingNote (files : Nat) (workers : Int) : String :=
  "[SCAN] Processing " ++ toString files ++ " files with " ++ toString workers ++ " workers"

/-- What is logged after the last file. -/
def closingNote (batch : Batch) (elapsed : Binary64) : String :=
  "[SCAN] Completed: " ++ toString batch.scanned.length ++ " scanned, " ++
    toString batch.skipped.length ++ " skipped, " ++ toString batch.failed.length ++ " errors, " ++
    toString batch.rangeCount ++ " ranges in " ++ String.ofList elapsed.toHundredths ++ "s"

/-- What is logged during a scan; a scan of no file is not logged. -/
def log (session : Session) (scanner : Scanner) (options : ScanOptions) (paths : List String)
    (batch : Batch) : List LogEntry :=
  let wanted := scanner.wanted (Scanner.collected session.files options.recursive paths)
  let notes := session.files.collectNotes (paths.map (·.toList))
  (notes.map fun note => ⟨.warning, .scanner, note⟩) ++
    if wanted.isEmpty then []
    else ⟨.debug, .scanner, openingNote wanted.length options.maxWorkers⟩ ::
      wanted.flatMap (fileLog session.files scanner.classifier) ++
      [⟨.debug, .scanner, closingNote batch session.elapsed⟩]

/-! ## The output -/

/-- The colours of a report. -/
def paint (session : Session) (options : ScanOptions) : Paint :=
  if session.onTerminal && !options.noColor then .terminal else .none

/-- The lines of files at hand for a report, with warnings about files that could not be read
again. -/
def headers (session : Session) (options : ScanOptions) (report : ScanReport) :
    Except Crash ScanReport.Headers :=
  if options.showLines then (report.readHeaders session.files).mapError .unread else .ok {}

/-- The line about files that were skipped, if any were. -/
def skippedLines (batch : Batch) : List String :=
  if batch.skipped.isEmpty then []
  else ["Skipped " ++ toString batch.skipped.length ++ " files (unsupported language)"]

/-- The report on a scan, as a structured value or as text. -/
def report (session : Session) (options : ScanOptions) (batch : Batch) : Except Crash Outcome := do
  let report := ScanReport.ofBatch batch session.elapsed
  if options.json then return .saying [Json.write .unicode report.toValue]
  let headers ← headers session options report
  let text ← (report.text (paint session options) headers.lines).mapError .report
  return { output := text :: skippedLines batch, errors := headers.warnings }

/-! ## The command -/

/-- The outcome of a scan by a judge. -/
def outcome (session : Session) (options : ScanOptions) (paths : List String) (bench : Bench) :
    Except Crash Outcome := do
  let scanner : Scanner := ⟨bench.classifier, options.allLanguages⟩
  let batch ← (scanner.scanPaths session.files options.recursive options.maxWorkers paths).mapError
    .scan
  let reported ← report session options batch
  return { reported with
    exitCode := if batch.failed.isEmpty then 0 else 1
    errors := reported.errors ++ batch.failed.map fun (path, message) =>
      Outcome.failureLine path message
    log := LogEntry.atLeast bench.threshold (log session scanner options paths batch) }

/-- Run the command. -/
def run (session : Session) (options : ScanOptions) (paths : List String) : Except Crash Outcome :=
  match session.bench options.judging with
  | .error fault => fault.outcome .scan
  | .ok bench => outcome session options paths bench

end Scan
end Command
end BranchFold
