import BranchFold.Text.Quoted

/-!
# Wrong use of the command line

What can be wrong with the words of a command line, and what is said about it.  Most messages come
with a reminder of how the command is used; those about the value of an option stand alone.
-/

namespace BranchFold
namespace Command

/-! ## Topics -/

/-- What a user can ask for help on: the program as a whole, or one of its commands. -/
inductive Topic where
  | program
  | scan
  | blocks
  | serve
  deriving DecidableEq, Repr

namespace Topic

/-- The words that open a command line on the topic. -/
def words : Topic → String
  | program => "foldeb"
  | scan => "foldeb scan"
  | blocks => "foldeb blocks"
  | serve => "foldeb serve"

/-- How the words go on. -/
def continuation : Topic → String
  | program => "[OPTIONS] [COMMAND] [ARGS]..."
  | scan => "[OPTIONS] PATHS..."
  | blocks => "[OPTIONS] PATH"
  | serve => "[OPTIONS]"

/-- The line that shows how the topic is used. -/
def usage (topic : Topic) : String :=
  "Usage: " ++ topic.words ++ " " ++ topic.continuation

/-- The line that points to the help on the topic. -/
def pointer (topic : Topic) : String :=
  "Try '" ++ topic.words ++ " --help' for help."

end Topic

/-! ## Faults -/

/-- The kind of number that an option takes. -/
inductive NumberKind where
  /-- Any integer. -/
  | any
  /-- An integer that is not below the given one. -/
  | atLeast (least : Int)
  deriving DecidableEq, Repr

/-- The name of a kind of number. -/
def NumberKind.name : NumberKind → String
  | any => "integer"
  | atLeast _ => "integer range"

/-- What is wrong with a command line. -/
inductive UsageFault where
  | unknownOption (name : String) (similar : List String)
  /-- The option stands at the end, and its value is missing. -/
  | missingValue (name : String)
  /-- A flag was given a value. -/
  | unwantedValue (name : String)
  | notANumber (name value : String) (kind : NumberKind)
  | tooSmall (name : String) (value least : Int)
  | missingOperand (operand : String)
  /-- The path leads nowhere; the kind says what it should lead to. -/
  | missingPath (operand kind path : String)
  /-- The path leads to a folder, where a file is wanted. -/
  | folderPath (operand kind path : String)
  /-- The permission to read what the path leads to is missing. -/
  | unreadablePath (operand kind path : String)
  | extraOperands (words : List String)
  /-- The depth gate is asked for and refused at once. -/
  | contradictoryGate
  deriving DecidableEq, Repr

namespace UsageFault

/-- What is said about options that resemble an unknown one. -/
def suggestion : List String → String
  | [] => ""
  | [name] => " Did you mean " ++ Text.quote name ++ "?"
  | names => " (Did you mean one of: " ++ String.intercalate ", " (names.map Text.quote) ++ "?)"

/-- A message about the value of an option or operand. -/
def invalid (name text : String) : String :=
  "Invalid value for '" ++ name ++ "': " ++ text

/-- What is said about a fault. -/
def message : UsageFault → String
  | unknownOption name similar => "No such option " ++ Text.quote name ++ "." ++ suggestion similar
  | missingValue name => "Option " ++ Text.quote name ++ " requires an argument."
  | unwantedValue name => "Option " ++ Text.quote name ++ " does not take a value."
  | notANumber name value kind =>
      invalid name (Text.quote value ++ " is not a valid " ++ kind.name ++ ".")
  | tooSmall name value least =>
      invalid name (toString value ++ " is not in the range x>=" ++ toString least ++ ".")
  | missingOperand operand => "Missing argument '" ++ operand ++ "'."
  | missingPath operand kind path =>
      invalid operand (kind ++ " " ++ Text.quote path ++ " does not exist.")
  | folderPath operand kind path =>
      invalid operand (kind ++ " " ++ Text.quote path ++ " is a directory.")
  | unreadablePath operand kind path =>
      invalid operand (kind ++ " " ++ Text.quote path ++ " is not readable.")
  | extraOperands words =>
      "Got unexpected extra argument" ++ (if words.length = 1 then "" else "s") ++ " (" ++
        String.intercalate " " words ++ ")"
  | contradictoryGate => "--depth-gate and --no-depth-gate are mutually exclusive"

/-- The message comes with a reminder of how the command is used. -/
def remindsOfUsage : UsageFault → Bool
  | missingValue _ => false
  | unwantedValue _ => false
  | _ => true

/-- The lines about a fault in a command line on the topic. -/
def lines (topic : Topic) (fault : UsageFault) : List String :=
  (if fault.remindsOfUsage then [topic.usage, topic.pointer, ""] else []) ++
    ["Error: " ++ fault.message]

/-- Whatever is wrong, the last line says what. -/
theorem getLast?_lines (topic : Topic) (fault : UsageFault) :
    (fault.lines topic).getLast? = some ("Error: " ++ fault.message) := by
  simp [lines]

end UsageFault
end Command
end BranchFold
