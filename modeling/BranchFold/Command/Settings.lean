import BranchFold.Command.Options
import BranchFold.Settings.Environment
import BranchFold.Settings.LogLevel

/-!
# Settings of the commands

What the options of each command are, what they set, and what the command does without them.

Main definitions:

- {lit}`JudgingOptions`: the options of all commands that judge blocks.
- {lit}`ScanOptions`, {lit}`BlocksOptions`, {lit}`ServeOptions`: the options of each command.
-/

namespace BranchFold
namespace Command

/-! ## Numbers -/

/-- The number that a word stands for, if it is one of the kind that the option takes. -/
def readNumber (name : String) (kind : NumberKind) (word : String) : Except UsageFault Int :=
  match Text.toInt? word.toList with
  | none => .error (.notANumber name word kind)
  | some value =>
      match kind with
      | .any => .ok value
      | .atLeast least => if value < least then .error (.tooSmall name value least) else .ok value

/-! ## Judging -/

/-- The options of commands that judge blocks. -/
inductive JudgingKey where
  | depthGate
  | noDepthGate
  | depthThreshold
  | verbose
  deriving DecidableEq, Repr

/-- What the options of commands that judge blocks set. -/
structure JudgingOptions where
  depthGate : Bool := false
  noDepthGate : Bool := false
  depthThreshold : Option Int := none
  verbose : Bool := false
  deriving DecidableEq, Repr

namespace JudgingOptions

/-- The vocabulary of these options, as part of that of a command. -/
def vocabulary {Key : Type} (part : JudgingKey → Key) : List (OptionSpec Key) :=
  [⟨part .depthGate, "--depth-gate", .flag none⟩,
    ⟨part .noDepthGate, "--no-depth-gate", .flag none⟩,
    ⟨part .depthThreshold, "--depth-threshold", .value⟩,
    ⟨part .verbose, "--verbose", .flag (some 'v')⟩]

/-- The settings after one more option. -/
def set (options : JudgingOptions) (key : JudgingKey) (value : String) :
    Except UsageFault JudgingOptions :=
  match key with
  | .depthGate => .ok { options with depthGate := true }
  | .noDepthGate => .ok { options with noDepthGate := true }
  | .depthThreshold =>
      (readNumber "--depth-threshold" (.atLeast 0) value).map fun threshold =>
        { options with depthThreshold := some threshold }
  | .verbose => .ok { options with verbose := true }

/-- What the options ask for instead of the environment's policy. -/
def wishes (options : JudgingOptions) : Except UsageFault PolicyOverrides :=
  if options.depthGate && options.noDepthGate then .error .contradictoryGate
  else .ok
    { depthGate := if options.depthGate || options.noDepthGate then some options.depthGate else none
      depthThreshold := options.depthThreshold }

/-- The rank from which on messages are logged. -/
def logThreshold (options : JudgingOptions) (env : Environment) : Except UnusableLevel Int :=
  LogLevel.threshold (if options.verbose then some LogLevel.debug else none) env "WARNING"

end JudgingOptions

/-! ## Scanning -/

/-- The options of a scan. -/
inductive ScanKey where
  | recursive
  | json
  | allLanguages
  | showLines
  | noColor
  | maxWorkers
  | judging (key : JudgingKey)
  | help
  deriving DecidableEq, Repr

/-- The name of the option for the number of workers. -/
def workersName : String := "--max-workers"

/-- The least number of workers that a scan takes. -/
def leastWorkers : Int := 1

/-- The number of workers where nothing asks for another. -/
def usualWorkers : Int := 10

/-- What the options of a scan set. -/
structure ScanOptions where
  recursive : Bool := false
  json : Bool := false
  allLanguages : Bool := false
  showLines : Bool := false
  noColor : Bool := false
  /-- The most files that are scanned at the same time. -/
  maxWorkers : Int := usualWorkers
  judging : JudgingOptions := {}
  deriving DecidableEq, Repr

namespace ScanOptions

/-- The options that a scan knows. -/
def vocabulary : Vocabulary ScanKey where
  options :=
    [⟨.recursive, "--recursive", .flag (some 'r')⟩, ⟨.json, "--json", .flag none⟩,
      ⟨.allLanguages, "--all-languages", .flag none⟩, ⟨.showLines, "--show-lines", .flag none⟩,
      ⟨.noColor, "--no-color", .flag none⟩, ⟨.maxWorkers, workersName, .value⟩] ++
    JudgingOptions.vocabulary .judging ++ [⟨.help, "--help", .flag none⟩]

/-- The settings after one more option. -/
def set (options : ScanOptions) (key : ScanKey) (value : String) :
    Except UsageFault ScanOptions :=
  match key with
  | .recursive => .ok { options with recursive := true }
  | .json => .ok { options with json := true }
  | .allLanguages => .ok { options with allLanguages := true }
  | .showLines => .ok { options with showLines := true }
  | .noColor => .ok { options with noColor := true }
  | .maxWorkers =>
      (readNumber workersName (.atLeast leastWorkers) value).map fun workers =>
        { options with maxWorkers := workers }
  | .judging key => (options.judging.set key value).map fun judging => { options with judging }
  | .help => .ok options

end ScanOptions

/-- The number of workers that the environment asks for. -/
def workersIn (env : Environment) : Int :=
  env.int "FOLDEB_MAX_WORKERS" usualWorkers

/-! ## Listing blocks -/

/-- The options for listing blocks. -/
inductive BlocksKey where
  | json
  | accepted
  | judging (key : JudgingKey)
  | help
  deriving DecidableEq, Repr

/-- What the options for listing blocks set. -/
structure BlocksOptions where
  json : Bool := false
  /-- List only the blocks that handle errors. -/
  accepted : Bool := false
  judging : JudgingOptions := {}
  deriving DecidableEq, Repr

namespace BlocksOptions

/-- The options that the listing of blocks knows. -/
def vocabulary : Vocabulary BlocksKey where
  options :=
    [⟨.json, "--json", .flag none⟩, ⟨.accepted, "--accepted", .flag none⟩] ++
      JudgingOptions.vocabulary .judging ++ [⟨.help, "--help", .flag none⟩]

/-- The settings after one more option. -/
def set (options : BlocksOptions) (key : BlocksKey) (value : String) :
    Except UsageFault BlocksOptions :=
  match key with
  | .json => .ok { options with json := true }
  | .accepted => .ok { options with accepted := true }
  | .judging key => (options.judging.set key value).map fun judging => { options with judging }
  | .help => .ok options

end BlocksOptions

/-! ## Serving -/

/-- The options for starting the service. -/
inductive ServeKey where
  | host
  | port
  | reload
  | help
  deriving DecidableEq, Repr

/-- What the options for starting the service set. -/
structure ServeOptions where
  host : String := "127.0.0.1"
  port : Int := 8000
  /-- Start again whenever the program changes. -/
  reload : Bool := false
  deriving DecidableEq, Repr

namespace ServeOptions

/-- The options that the start of the service knows. -/
def vocabulary : Vocabulary ServeKey where
  options :=
    [⟨.host, "--host", .value⟩, ⟨.port, "--port", .value⟩, ⟨.reload, "--reload", .flag none⟩,
      ⟨.help, "--help", .flag none⟩]

/-- The settings after one more option. -/
def set (options : ServeOptions) (key : ServeKey) (value : String) :
    Except UsageFault ServeOptions :=
  match key with
  | .host => .ok { options with host := value }
  | .port => (readNumber "--port" .any value).map fun port => { options with port }
  | .reload => .ok { options with reload := true }
  | .help => .ok options

end ServeOptions

/-! ## The program as a whole -/

/-- The options of the program as a whole. -/
inductive ProgramKey where
  | version
  | help
  deriving DecidableEq, Repr

/-- The options that the program knows before a command. -/
def programVocabulary : Vocabulary ProgramKey where
  options := [⟨.version, "--version", .flag none⟩, ⟨.help, "--help", .flag none⟩]
  mixed := false

end Command
end BranchFold
