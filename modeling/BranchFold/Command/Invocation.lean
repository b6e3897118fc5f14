import BranchFold.Command.Settings
import BranchFold.Files.Tree

/-!
# What a command line asks for

The first word of a command line selects a command; any other first word asks for a scan of all the
words.  Faults are found in a fixed order: those of the options as they are written, from left to
right, then those of their values, then those of the operands.

Main definitions:

- {lit}`Invocation`: what the program is asked to do.
- {lit}`Invocation.ofWords`: what a command line asks for.
-/

namespace BranchFold
namespace Command

/-- What the program is asked to do. -/
inductive Invocation where
  | help (topic : Topic)
  | version
  | scan (options : ScanOptions) (paths : List String)
  | blocks (options : BlocksOptions) (path : String)
  | serve (options : ServeOptions)
  deriving DecidableEq, Repr

/-- Why a command line is not acted upon. -/
inductive Rejection where
  /-- It is wrong. -/
  | usage (topic : Topic) (fault : UsageFault)
  /-- It names a path that no file can have. -/
  | impossiblePath
  deriving DecidableEq, Repr

namespace Invocation

/-! ## Operands -/

/-- What the operands of a command must lead to. -/
structure PathOperand where
  topic : Topic
  name : String
  kind : String
  foldersAllowed : Bool

/-- The operands of a scan. -/
def scanOperand : PathOperand :=
  ⟨.scan, "PATHS...", "Path", true⟩

/-- The operand of a listing of blocks. -/
def blocksOperand : PathOperand :=
  ⟨.blocks, "PATH", "File", false⟩

/-- A path as an operand: it must lead somewhere, perhaps not to a folder, and not to what must not
be read. -/
def checkPath (fs : FileSystem) (operand : PathOperand) (path : String) : Except Rejection Unit :=
  match fs.locate path.toList with
  | .error .nullCharacter => .error .impossiblePath
  | .error _ => .error (.usage operand.topic (.missingPath operand.name operand.kind path))
  | .ok node =>
      if node.isFolder && !operand.foldersAllowed then
        .error (.usage operand.topic (.folderPath operand.name operand.kind path))
      else if node.deniesReading then
        .error (.usage operand.topic (.unreadablePath operand.name operand.kind path))
      else .ok ()

/-! ## Commands -/

/-- Read the words of a command and settle its options; help goes before everything but the faults
of the words themselves. -/
def readCommand {Key Settings : Type} [DecidableEq Key] (topic : Topic)
    (vocabulary : Vocabulary Key) (helpKey : Key)
    (set : Settings → Key → String → Except UsageFault Settings) (start : Settings)
    (proceed : Settings → List String → Except Rejection Invocation) (words : List String) :
    Except Rejection Invocation :=
  match vocabulary.read words with
  | .error fault => .error (.usage topic fault)
  | .ok line =>
      if line.has helpKey then .ok (.help topic)
      else match line.settle set start with
        | .error fault => .error (.usage topic fault)
        | .ok settings => proceed settings line.operands

/-- A scan needs at least one path.  A number of workers that comes from no option is looked at
last. -/
def proceedScan (fs : FileSystem) (options : ScanOptions) (operands : List String) :
    Except Rejection Invocation :=
  if operands.isEmpty then .error (.usage .scan (.missingOperand scanOperand.name))
  else match operands.forM (checkPath fs scanOperand) with
    | .error rejection => .error rejection
    | .ok () =>
        if options.maxWorkers < leastWorkers then
          .error (.usage .scan (.tooSmall workersName options.maxWorkers leastWorkers))
        else .ok (.scan options operands)

/-- A listing of blocks needs exactly one path. -/
def proceedBlocks (fs : FileSystem) (options : BlocksOptions) (operands : List String) :
    Except Rejection Invocation :=
  match operands with
  | [] => .error (.usage .blocks (.missingOperand blocksOperand.name))
  | path :: extra =>
      match checkPath fs blocksOperand path with
      | .error rejection => .error rejection
      | .ok () =>
          if extra.isEmpty then .ok (.blocks options path)
          else .error (.usage .blocks (.extraOperands extra))

/-- The service takes no operands. -/
def proceedServe (options : ServeOptions) (operands : List String) : Except Rejection Invocation :=
  if operands.isEmpty then .ok (.serve options)
  else .error (.usage .serve (.extraOperands operands))

/-- The words of a scan, which has so many workers unless they ask for others. -/
def ofScanWords (fs : FileSystem) (workers : Int) : List String → Except Rejection Invocation :=
  readCommand .scan ScanOptions.vocabulary .help ScanOptions.set { maxWorkers := workers }
    (proceedScan fs)

/-- The words of a listing of blocks. -/
def ofBlocksWords (fs : FileSystem) : List String → Except Rejection Invocation :=
  readCommand .blocks BlocksOptions.vocabulary .help BlocksOptions.set {} (proceedBlocks fs)

/-- The words of a start of the service. -/
def ofServeWords : List String → Except Rejection Invocation :=
  readCommand .serve ServeOptions.vocabulary .help ServeOptions.set {} proceedServe

/-! ## The program -/

/-- What an option before all commands asks for. -/
def ofProgramKey : ProgramKey → Invocation
  | .version => .version
  | .help => .help .program

/-- The words of a command line that begins with an option of the program; the first option
counts. -/
def ofProgramWords (words : List String) : Except Rejection Invocation :=
  match programVocabulary.read words with
  | .error fault => .error (.usage .program fault)
  | .ok line => .ok (((line.uses.head?).map ofProgramKey).getD (.help .program))

/-- First words that speak about the program as a whole. -/
def programWords : List String :=
  ["--help", "-h", "--version"]

/-- What a command line asks for. -/
def ofWords (fs : FileSystem) (workers : Int) (words : List String) :
    Except Rejection Invocation :=
  match words with
  | [] => .ok (.help .program)
  | first :: rest =>
      if programWords.contains first then ofProgramWords words
      else if first = "scan" then ofScanWords fs workers rest
      else if first = "blocks" then ofBlocksWords fs rest
      else if first = "serve" then ofServeWords rest
      else ofScanWords fs workers words

/-- A first word that is no command and no option of the program asks for a scan. -/
theorem ofWords_eq_scan (fs : FileSystem) (workers : Int) (first : String) (rest : List String)
    (hprogram : first ∉ programWords) (hscan : first ≠ "scan") (hblocks : first ≠ "blocks")
    (hserve : first ≠ "serve") :
    ofWords fs workers (first :: rest) = ofWords fs workers ("scan" :: first :: rest) := by
  have hword : "scan" ∉ programWords := by decide
  simp [ofWords, hprogram, hscan, hblocks, hserve, hword]

end Invocation
end Command
end BranchFold
