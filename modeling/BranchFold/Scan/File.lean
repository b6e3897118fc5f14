import BranchFold.Files.Read
import BranchFold.FoldRange
import BranchFold.Language

/-!
# Scanning one file

The ranges of one file, with its language and its number of lines.
-/

namespace BranchFold

/-- The ranges found in one file. -/
structure FileScan where
  path : String
  language : Option Language
  lineCount : Nat
  ranges : List FoldRange
  deriving DecidableEq, Repr

namespace FileScan

/-- The number of ranges found. -/
def count (scan : FileScan) : Nat :=
  scan.ranges.length

/-- The scan of a document that was read from a path. -/
def ofDocument (classifier : Classifier) (path : String) (document : Document) : FileScan :=
  { path
    language := Language.ofPath? path
    lineCount := document.length
    ranges := classifier.foldRanges document }

end FileScan

/-- The scan of the file to which a path leads. -/
def FileSystem.scanFile (fs : FileSystem) (classifier : Classifier) (path : String) :
    Except ReadFault FileScan :=
  (fs.readDocument path).map (FileScan.ofDocument classifier path)

end BranchFold
