import BranchFold.Scan.Batch
import BranchFold.Text.Numeral

/-!
# Scans as they finish

A pool of workers scans the files, and the scans are taken in as they finish, in whatever order
that happens.  A scan is kept under the path of its file and a failure behind the failures before
it.  When all have finished, both are put in order.  There is no result when a folder has to be
listed and refuses, when the number of workers is too long to be written into the log, or when a
file never comes to an end.

Main definitions:

- {lit}`Progress`: what has been taken in so far.
- {lit}`Scanner.scanInOrder`: the result for a list of paths whose files finish in a given order.
- {lit}`Scanner.scanPaths`: the result for a list of paths.
-/

namespace BranchFold

/-- Why a scan of many files breaks off without a result. -/
inductive ScanFault where
  /-- A folder had to be listed and refused. -/
  | unlistable (fault : ListFault)
  /-- The number of workers has too many digits to be written. -/
  | numeral
  /-- The pool was to have no worker. -/
  | noWorker
  /-- Reading a file has come to no end, or to one that is no failure to report. -/
  | unread (cause : ReadFault)
  deriving DecidableEq, Repr

namespace ScanFault

/-- The complaint about a scan that breaks off. -/
def message : ScanFault → String
  | unlistable fault => fault.message
  | numeral => Text.numeralComplaint
  | noWorker => "max_workers must be greater than 0"
  | unread cause => cause.message

/-- The number of workers is written into the log as it was given. -/
def checkNumeral (workers : Int) : Except ScanFault Unit :=
  if (Text.ofInt? workers).isSome then .ok () else .error numeral

/-- A pool needs at least one worker. -/
def checkWorkers (workers : Int) : Except ScanFault Unit :=
  if workers ≤ 0 then .error noWorker else .ok ()

end ScanFault

/-- The scans and failures that have been taken in, scans under the paths of their files and the
latest first. -/
structure Progress where
  scanned : List (String × FileScan) := []
  failed : List (String × String) := []
  deriving DecidableEq, Repr

namespace Progress

/-- Take in the scan of one more file. -/
def record (progress : Progress) (completion : Completion) : Except ScanFault Progress :=
  match completion.outcome with
  | .ok scan => .ok { progress with scanned := (completion.path, scan) :: progress.scanned }
  | .error fault =>
      if fault.isReported then
        .ok { progress with failed := progress.failed ++ [(completion.path, fault.message)] }
      else .error (.unread fault)

/-- Put in order what has been taken in: scans as their files were collected, failures by path. -/
def batch (progress : Progress) (files skipped : List String) : Batch :=
  { scanned := files.filterMap fun path => progress.scanned.lookup path
    skipped
    failed := Batch.sortFailures progress.failed }

end Progress

namespace Scanner

/-- The result for collected files, scanned by so many workers, when they finish in the given order.
Less than one worker counts as one, and a pool is set up only for files to scan. -/
def scanFiles (scanner : Scanner) (workers : Int) (files : List String)
    (completions : List Completion) : Except ScanFault Batch :=
  let wanted := scanner.wanted files
  let skipped := scanner.unwanted files
  if wanted.isEmpty then .ok { skipped }
  else do
    ScanFault.checkNumeral workers
    ScanFault.checkWorkers (max 1 workers)
    let progress ← completions.foldlM Progress.record {}
    return progress.batch wanted skipped

/-- The result for a list of paths, scanned by so many workers, when the files finish in the given
order. -/
def scanInOrder (scanner : Scanner) (fs : FileSystem) (recursive : Bool) (workers : Int)
    (paths : List String) (completions : List Completion) : Except ScanFault Batch :=
  match fs.firstListFault? recursive (paths.map (·.toList)) with
  | some fault => .error (.unlistable fault)
  | none => scanner.scanFiles workers (collected fs recursive paths) completions

/-- The result for a list of paths, scanned by so many workers. -/
def scanPaths (scanner : Scanner) (fs : FileSystem) (recursive : Bool) (workers : Int)
    (paths : List String) : Except ScanFault Batch :=
  scanner.scanInOrder fs recursive workers paths
    ((scanner.wanted (collected fs recursive paths)).map (scanner.complete fs))

end Scanner
end BranchFold
