import BranchFold.Command.Blocks
import BranchFold.Command.Help
import BranchFold.Command.Invocation
import BranchFold.Command.Scan
import BranchFold.Version

/-!
# The command line of the program

From the words of a command line to its outcome.

Main definitions:

- {lit}`Invocation.run`: the outcome of what the program is asked to do.
- {lit}`run`: the outcome of a command line.
-/

namespace BranchFold
namespace Command

/-- The line that announces a service. -/
def announcement (options : ServeOptions) : String :=
  "Starting foldeb server on http://" ++ options.host ++ ":" ++ toString options.port ++
    " (docs at /docs)"

/-- The outcome of what the program is asked to do. -/
def Invocation.run (session : Session) : Invocation → Except Crash Outcome
  | help topic => .ok (.saying topic.help)
  | version => .ok (.saying ["foldeb, version " ++ BranchFold.version])
  | scan options paths => Scan.run session options paths
  | blocks options path => Blocks.run session options path
  | serve options => .ok { output := [announcement options], server := some options }

/-- The outcome of a command line. -/
def run (session : Session) (words : List String) : Except Crash Outcome :=
  match Invocation.ofWords session.files session.workers words with
  | .ok invocation => invocation.run session
  | .error (.usage topic fault) => .ok (.misuse topic fault)
  | .error .impossiblePath => .error .impossiblePath

end Command
end BranchFold
