import BranchFold.Command.Outcome
import BranchFold.FoldRange
import BranchFold.Json.Writer

/-!
# The blocks command

List the blocks of one file with the verdict on each, as text or as a structured value.  The file is
read before the options are looked at.
-/

namespace BranchFold
namespace Command
namespace Blocks

open Json (Value)

/-! ## Rows -/

/-- A block with its columns and the verdict on it. -/
structure Row where
  block : Block
  columns : Columns
  verdict : Option Verdict
  deriving DecidableEq, Repr

namespace Row

/-- The row of a block. -/
def ofBlock (classifier : Classifier) (document : Document) (block : Block) : Row :=
  ⟨block, block.columns document, classifier.verdict? document block⟩

/-- The row as a structured value. -/
def toValue (row : Row) : Value :=
  .object [("start_line", .int row.block.first), ("end_line", .int row.block.last),
    ("start_column", .int row.columns.first), ("end_column", .int row.columns.last),
    ("indent_level", .int row.block.indent), ("error_handling", .bool row.verdict.isSome),
    ("rule", .ofOption (fun verdict => .text verdict.rule) row.verdict),
    ("category", .ofOption (fun verdict => .text verdict.category) row.verdict),
    ("matched_line", .ofOption (fun verdict => .int verdict.line) row.verdict)]

/-- The lines of the block, counted from one. -/
def span (row : Row) : String :=
  toString (row.block.first + 1) ++ "-" ++ toString (row.block.last + 1)

/-- What is said about the verdict. -/
def status (row : Row) : String :=
  match row.verdict with
  | some verdict => "error handling (" ++ verdict.category ++ ": " ++ verdict.rule ++ ")"
  | none => "-"

/-- A text at the right end of so many columns. -/
def padLeft (width : Nat) (text : String) : String :=
  String.ofList (List.replicate (width - text.length) ' ') ++ text

/-- A text at the left end of so many columns. -/
def padRight (width : Nat) (text : String) : String :=
  text ++ String.ofList (List.replicate (width - text.length) ' ')

/-- The row as a line. -/
def line (row : Row) : String :=
  padLeft 11 row.span ++ "  indent=" ++ padRight 3 (toString row.block.indent) ++ " " ++ row.status

end Row

/-- The rows of a document; if only accepted blocks are wanted, the others are left out. -/
def rows (classifier : Classifier) (acceptedOnly : Bool) (document : Document) : List Row :=
  (document.blocks.map (Row.ofBlock classifier document)).filter fun row =>
    !acceptedOnly || row.verdict.isSome

/-! ## The output -/

/-- The listing as a structured value. -/
def listing (path : String) (lineCount : Nat) (rows : List Row) : Value :=
  .object [("path", .text path), ("line_count", .int lineCount),
    ("blocks", .array (rows.map (·.toValue)))]

/-- The listing as lines. -/
def lines (rows : List Row) : List String :=
  if rows.isEmpty then ["No blocks found."] else rows.map (·.line)

/-- The output for a document that was read from a path. -/
def output (options : BlocksOptions) (path : String) (classifier : Classifier)
    (document : Document) : List String :=
  let rows := rows classifier options.accepted document
  if options.json then [Json.write .ascii (listing path document.length rows)] else lines rows

/-! ## The command -/

/-- The outcome for a document, by a judge. -/
def outcome (options : BlocksOptions) (path : String) (bench : Bench) (document : Document) :
    Outcome :=
  { output := output options path bench.classifier document
    log := LogEntry.atLeast bench.threshold
      (document.openNote.toList.map fun note => ⟨.debug, .segmenter, note⟩) }

/-- The outcome when the file cannot be read. -/
def unreadable (path : String) (fault : ReadFault) : Except Crash Outcome :=
  if fault.isReported then
    .ok { exitCode := 1, errors := [Outcome.failureLine path fault.message] }
  else .error (.unread fault)

/-- Run the command. -/
def run (session : Session) (options : BlocksOptions) (path : String) : Except Crash Outcome :=
  match session.files.readDocument path with
  | .error fault => unreadable path fault
  | .ok document =>
      match session.bench options.judging with
      | .error fault => fault.outcome .blocks
      | .ok bench => .ok (outcome options path bench document)

end Blocks
end Command
end BranchFold
