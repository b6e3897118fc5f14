import BranchFold.Text.Blank

/-!
# Messages at shutdown

When a server is stopped, its libraries report the interruption as an error.  Such reports are
dropped from the log; everything else is kept.
-/

namespace BranchFold
namespace Service

/-- A message for the log. -/
structure LogRecord where
  levelName : String
  template : String
  arguments : List String := []
  /-- The name of the kind of failure that the message reports, if it reports one. -/
  failure : Option String := none
  deriving DecidableEq, Repr

namespace LogRecord

/-- The template with its arguments in place of the marks for them. -/
def fill : Text → List Text → Text
  | '%' :: 's' :: rest, argument :: more => argument ++ fill rest more
  | c :: rest, arguments => c :: fill rest arguments
  | [], _ => []

/-- The text of a message. -/
def message (record : LogRecord) : Text :=
  fill record.template.toList (record.arguments.map (·.toList))

/-- Phrases by which a message shows that the server is being stopped. -/
def shutdownPhrases : List String :=
  ["KeyboardInterrupt", "CancelledError", "Shutting down"]

/-- Kinds of failure that stopping a server brings about. -/
def shutdownFailures : List String :=
  ["KeyboardInterrupt", "CancelledError", "SystemExit"]

/-- The message reports that the server is being stopped. -/
def reportsShutdown (record : LogRecord) : Bool :=
  record.levelName == "ERROR" &&
    (shutdownPhrases.any (fun phrase => Text.hasPart record.message phrase.toList) ||
      record.failure.any shutdownFailures.contains)

/-- The message stays in the log. -/
def isKept (record : LogRecord) : Bool :=
  !record.reportsShutdown

/-- Only errors are ever dropped. -/
theorem isKept_of_levelName_ne {record : LogRecord} (h : record.levelName ≠ "ERROR") :
    record.isKept = true := by
  simp [isKept, reportsShutdown, h]

end LogRecord
end Service
end BranchFold
