import BranchFold.Command.Run

/-!
# The program

The outer layer: it looks at the world, hands what it sees to the command line, and writes what
comes back.  Every decision is made elsewhere.
-/

namespace BranchFold
namespace Program

/-- The variables of the environment that the program looks at. -/
def variableNames : List String :=
  ["FOLDEB_DEPTH_GATE", "FOLDEB_DEPTH_THRESHOLD", "FOLDEB_LOG_LEVEL", "FOLDEB_MAX_WORKERS"]

/-- The variables that are set. -/
def readEnvironment : IO Environment := do
  let values ← variableNames.mapM fun name => do return (name, ← IO.getEnv name)
  return ⟨values.filterMap fun (name, value) => value.map fun text => (name, text)⟩

/-- What the system says when it refuses, or nothing when it does not. -/
def refusal? (act : IO Unit) : IO (Option Refusal) := do
  try
    act
    return none
  catch
    | .permissionDenied .. => return some .denied
    | cause => return some ⟨0, toString cause⟩

mutual
/-- The file or folder to which a path leads.  Nothing is read of a special file. -/
partial def readNode (path : String) : IO Node := do
  let place := (← IO.currentDir) / path
  match (← place.metadata).type with
  | .dir =>
      match ← refusal? (discard place.readDir) with
      | some cause => return .folder { unlisted := some cause } []
      | none =>
          let entries ← place.readDir
          return .openFolder (← entries.toList.mapM fun entry => do
            return (entry.fileName.toList, ← readEntry (path ++ "/" ++ entry.fileName)))
  | .file =>
      match ← refusal? (discard (IO.FS.Handle.mk place .read)) with
      | some cause => return .file .regular (.refused cause)
      | none =>
          match ← refusal? (discard (IO.FS.readBinFile place)) with
          | some cause => return .file .regular (.brokenOff cause)
          | none => return .document (← IO.FS.readBinFile place).toList
  | _ => return .file .special .endless

/-- An entry of a folder.  A link to a folder is never entered, so it may as well lead to the root;
a link that leads nowhere has no target. -/
partial def readEntry (path : String) : IO Node := do
  let place := (← IO.currentDir) / path
  match (← place.symlinkMetadata).type with
  | .symlink =>
      if ← place.isDir then return .link ['/']
      else if ← place.pathExists then readNode path
      else return .link []
  | _ => readNode path
end

/-- The tree with the folders through which a path goes. -/
def addWayTo (directory path : Text) (root : Node) : IO Node :=
  let pieces := Path.pieces path
  (List.range (pieces.length + 1)).foldlM (fun root count => do
    let way := Path.joined (pieces.take count)
    if ← ((← IO.currentDir) / String.ofList way).isDir then
      return Node.makeFolder (Path.steps (Path.absolute directory way)) root
    else return root) root

/-- The tree with all that a word of the command line leads to, if it leads anywhere. -/
def addWord (directory : Text) (root : Node) (word : String) : IO Node := do
  let root ← addWayTo directory word.toList root
  if ← ((← IO.currentDir) / word).pathExists then
    return Node.put (← readNode word) (Path.steps (Path.absolute directory word.toList)) root
  else return root

/-- The part of the file system that the words of the command line lead to. -/
def readFiles (words : List String) : IO FileSystem := do
  let directory := (← IO.currentDir).toString.toList
  let root := Node.makeFolder (Path.steps directory) Node.emptyFolder
  return ⟨← words.foldlM (addWord directory) root, directory⟩

/-- Write an outcome and give its exit code.  A service has nobody to listen for it here, so its
start is a failure. -/
def write (outcome : Command.Outcome) : IO UInt32 := do
  for entry in outcome.log do
    IO.eprintln entry.line
  IO.print (Command.linesText (← (← IO.getStdout).isTty) outcome.output)
  IO.eprint (Command.linesText (← (← IO.getStderr).isTty) outcome.errors)
  match outcome.server with
  | none => return outcome.exitCode.toUInt32
  | some _ =>
      IO.eprintln "Error: no network listener is available"
      return 1

/-- Run the program on the words of its command line. -/
def run (words : List String) : IO UInt32 := do
  let started ← IO.monoNanosNow
  let files ← readFiles words
  let elapsed := Binary64.ofDecimal false ((← IO.monoNanosNow) - started) (-9)
  let onTerminal ← (← IO.getStdout).isTty
  let env ← readEnvironment
  let workers := Command.workersIn env
  match Command.run { env, files, workers, onTerminal, elapsed } words with
  | .ok outcome => write outcome
  | .error crash =>
      IO.eprintln crash.message
      return 1

end Program
end BranchFold

/-- The entry point. -/
def main (words : List String) : IO UInt32 :=
  BranchFold.Program.run words
