import BranchFold.Command.Settings
import BranchFold.Files.Read
import BranchFold.Number.Shortest
import BranchFold.Report.Text
import BranchFold.Scan.Progress
import BranchFold.Text.ControlSequence

/-!
# Outcomes of commands

A command turns the state of the world into an outcome: what it writes, what it logs and how it
ends.

Main definitions:

- {lit}`Session`: what a command can see of the world.
- {lit}`Outcome`: what a command brings about.
- {lit}`Crash`: why a command breaks off without an outcome.
-/

namespace BranchFold
namespace Command

/-! ## The world -/

/-- What a command can see of the world. -/
structure Session where
  env : Environment := {}
  files : FileSystem
  /-- The number of workers of a scan that asks for no other, fixed when the program starts. -/
  workers : Int := usualWorkers
  /-- The output goes to a terminal, which can show colours. -/
  onTerminal : Bool := false
  /-- The time that the work takes, in seconds. -/
  elapsed : Binary64 := .zero

/-! ## The log -/

/-- How urgent a message is. -/
inductive Severity where
  | debug
  | warning
  deriving DecidableEq, Repr

namespace Severity

/-- The rank of a message. -/
def rank : Severity → Int
  | debug => LogLevel.debug
  | warning => LogLevel.warning

/-- The name under which a message is logged. -/
def name : Severity → String
  | debug => "DEBUG"
  | warning => "WARNING"

end Severity

/-- The part of the program that logs a message. -/
inductive LogSource where
  | segmenter
  | finder
  | scanner
  deriving DecidableEq, Repr

/-- The name of a part of the program in the log. -/
def LogSource.name : LogSource → String
  | segmenter => "foldeb.engine.segmenter"
  | finder => "foldeb.engine.finder"
  | scanner => "foldeb.scanner"

/-- A message in the log. -/
structure LogEntry where
  severity : Severity
  source : LogSource
  message : String
  deriving DecidableEq, Repr

namespace LogEntry

/-- The entry as a line. -/
def line (entry : LogEntry) : String :=
  entry.severity.name ++ " " ++ entry.source.name ++ " " ++ entry.message

/-- The entries that reach a rank. -/
def atLeast (threshold : Int) (entries : List LogEntry) : List LogEntry :=
  entries.filter fun entry => threshold ≤ entry.severity.rank

/-- Nothing below the rank is kept. -/
theorem le_rank_of_mem_atLeast {threshold : Int} {entries : List LogEntry} {entry : LogEntry}
    (h : entry ∈ atLeast threshold entries) : threshold ≤ entry.severity.rank := by
  simpa [atLeast] using (List.mem_filter.1 h).2

end LogEntry

/-! ## Outcomes -/

/-- What a command brings about. -/
structure Outcome where
  exitCode : Nat := 0
  /-- The lines of the output. -/
  output : List String := []
  /-- The lines of the error output. -/
  errors : List String := []
  log : List LogEntry := []
  /-- The service that the command starts. -/
  server : Option ServeOptions := none
  deriving DecidableEq, Repr

/-- The text of lines, each with its terminator, as it is written.  Only a terminal is sent control
sequences. -/
def linesText (toTerminal : Bool) (lines : List String) : String :=
  let text := String.join (lines.map (· ++ "\n"))
  if toTerminal then text else String.ofList (Text.withoutSequences text.toList)

namespace Outcome

/-- A command that writes lines and ends well. -/
def saying (lines : List String) : Outcome :=
  { output := lines }

/-- A command line that is wrong. -/
def misuse (topic : Topic) (fault : UsageFault) : Outcome :=
  { exitCode := 2, errors := fault.lines topic }

/-- The line about a path that could not be read. -/
def failureLine (path message : String) : String :=
  "Error: " ++ path ++ ": " ++ message

end Outcome

/-- Why a command breaks off without an outcome. -/
inductive Crash where
  /-- The environment names a log level that is none. -/
  | level (cause : UnusableLevel)
  /-- The command line names a path that no file can have. -/
  | impossiblePath
  /-- Reading a file has come to no end, or to one that is no failure to report. -/
  | unread (cause : ReadFault)
  /-- A scan has come to no result. -/
  | scan (cause : ScanFault)
  /-- A report cannot be written. -/
  | report (cause : ReportFault)
  deriving DecidableEq, Repr

/-- What is said about a crash. -/
def Crash.message : Crash → String
  | level cause => cause.message
  | impossiblePath => PathFault.nullCharacter.message ""
  | unread cause => cause.message
  | scan cause => cause.message
  | report cause => cause.message

/-! ## Judges -/

/-- Who judges blocks, and from which rank on messages are logged. -/
structure Bench where
  classifier : Classifier
  threshold : Int

/-- How an attempt to set up fails: the command line is wrong, or the environment is. -/
inductive SetupFault where
  | usage (fault : UsageFault)
  | level (cause : UnusableLevel)
  deriving DecidableEq, Repr

/-- The outcome when the set-up for a topic fails. -/
def SetupFault.outcome (topic : Topic) : SetupFault → Except Crash Outcome
  | usage fault => .ok (.misuse topic fault)
  | level cause => .error (.level cause)

/-- Set up the judging of blocks: the options go before the environment, and the environment before
the defaults. -/
def Session.bench (session : Session) (options : JudgingOptions) : Except SetupFault Bench := do
  let wishes ← options.wishes.mapError .usage
  let threshold ← (options.logThreshold session.env).mapError .level
  return ⟨{ policy := (Policy.ofEnvironment session.env).overridden wishes },
    LogLevel.effective threshold⟩

end Command
end BranchFold
