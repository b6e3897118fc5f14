import BranchFold.Files.Collect
import BranchFold.Scan.File

/-!
# Scanning many files

Files are scanned one by one, independently of each other, and the scans may finish in any order.
The result lists them in the order in which the files were collected, and the failures in the order
of their paths.

Main definitions:

- {lit}`Completion`: a file whose scan has finished, well or badly.
- {lit}`Batch`: the result of scanning many files.
- {lit}`Scanner.collected`: the files for which a list of paths stands.
-/

namespace BranchFold

/-- A file whose scan has finished, and how it went. -/
structure Completion where
  path : String
  outcome : Except ReadFault FileScan

/-- The result of scanning many files. -/
structure Batch where
  scanned : List FileScan := []
  skipped : List String := []
  failed : List (String × String) := []
  deriving DecidableEq, Repr

namespace Batch

/-- The number of ranges found in all files. -/
def rangeCount (batch : Batch) : Nat :=
  batch.scanned.foldr (fun scan total => scan.count + total) 0

/-- Failures in the order of their paths. -/
def sortFailures (failed : List (String × String)) : List (String × String) :=
  failed.mergeSort fun a b =>
    Text.le a.1.toList b.1.toList && (a.1 != b.1 || Text.le a.2.toList b.2.toList)

end Batch

/-! ## Scanners -/

/-- The settings of a scan. -/
structure Scanner where
  classifier : Classifier := {}
  /-- Scan files of every kind, and not only those of a known language. -/
  allLanguages : Bool := false

namespace Scanner

/-- The file is of a kind that is scanned. -/
def wants (scanner : Scanner) (path : String) : Bool :=
  scanner.allLanguages || (Language.ofPath? path).isSome

/-- The scan of one file, finished. -/
def complete (scanner : Scanner) (fs : FileSystem) (path : String) : Completion :=
  ⟨path, fs.scanFile scanner.classifier path⟩

/-- The collected files that are scanned. -/
def wanted (scanner : Scanner) (files : List String) : List String :=
  files.filter scanner.wants

/-- The collected files that are skipped. -/
def unwanted (scanner : Scanner) (files : List String) : List String :=
  files.filter fun path => !scanner.wants path

/-- The files for which a list of paths stands, each once. -/
def collected (fs : FileSystem) (recursive : Bool) (paths : List String) : List String :=
  (fs.collected recursive (paths.map (·.toList))).map String.ofList

/-- Every collected file is either scanned or skipped. -/
theorem mem_wanted_or_mem_unwanted (scanner : Scanner) {files : List String} {path : String}
    (h : path ∈ files) : path ∈ scanner.wanted files ∨ path ∈ scanner.unwanted files := by
  cases hwants : scanner.wants path <;> simp [wanted, unwanted, h, hwants]

end Scanner
end BranchFold
