import BranchFold.Command.Resemblance
import BranchFold.Command.Usage

/-!
# Options of a command line

A command line is a list of words.  A word that begins with a dash is an option: two dashes and a
name, where a value may follow in the same word behind an equals sign or as the next word, or one
dash and a row of letters, each of which is a flag.  Two dashes alone end the options.  All other
words are operands.

Main definitions:

- {lit}`Vocabulary`: the options that a command knows.
- {lit}`Vocabulary.read`: the options and operands of a command line, or the first fault.
- {lit}`CommandLine.settle`: the settings that the options make.
-/

namespace BranchFold
namespace Command

/-! ## Vocabularies -/

/-- How an option is written. -/
inductive OptionForm where
  /-- It stands alone, and may have a letter for short. -/
  | flag (letter : Option Char)
  /-- A value follows it. -/
  | value
  deriving DecidableEq, Repr

/-- The letter that stands for an option. -/
def OptionForm.letter? : OptionForm → Option Char
  | flag letter => letter
  | value => none

/-- An option: what it is about, its name with the dashes, and how it is written. -/
structure OptionSpec (Key : Type) where
  key : Key
  name : String
  form : OptionForm
  deriving DecidableEq, Repr

/-- The options that a command knows. -/
structure Vocabulary (Key : Type) where
  options : List (OptionSpec Key)
  /-- Options may stand between and behind operands. -/
  mixed : Bool := true

/-- The options that were given, in order and each with its value, and the operands.  The value of a
flag is empty. -/
structure CommandLine (Key : Type) where
  given : List (Key × String) := []
  operands : List String := []
  deriving DecidableEq, Repr

namespace Vocabulary

variable {Key : Type}

/-- The option of that name. -/
def named? (vocabulary : Vocabulary Key) (name : Text) : Option (OptionSpec Key) :=
  vocabulary.options.find? fun option => option.name.toList == name

/-- The flag of that letter. -/
def lettered? (vocabulary : Vocabulary Key) (letter : Char) : Option (OptionSpec Key) :=
  vocabulary.options.find? fun option => option.form.letter? == some letter

/-- The names that resemble a name which is not in the vocabulary. -/
def similar (vocabulary : Vocabulary Key) (name : Text) : List String :=
  (Resemblance.closest name (vocabulary.options.map (·.name.toList))).map String.ofList

/-! ## One word -/

/-- What an option word says. -/
inductive Word (Key : Type) where
  /-- Flags. -/
  | flags (keys : List Key)
  /-- An option with its value. -/
  | valued (key : Key) (value : String)
  /-- An option whose value is the next word. -/
  | awaiting (key : Key)
  deriving DecidableEq, Repr

/-- The word is an option or a row of flags. -/
def isOption : Text → Bool
  | '-' :: _ :: _ => true
  | _ => false

/-- The word begins with two dashes. -/
def isLong (word : Text) : Bool :=
  Text.startsWith word ['-', '-']

/-- The name in an option word. -/
def nameOf (word : Text) : Text :=
  word.takeWhile (· != '=')

/-- The value in an option word: what follows the first equals sign. -/
def attached? (word : Text) : Option String :=
  match word.dropWhile (· != '=') with
  | [] => none
  | _ :: value => some (String.ofList value)

/-- The flag of a letter. -/
def readLetter (vocabulary : Vocabulary Key) (letter : Char) : Except UsageFault Key :=
  match vocabulary.lettered? letter with
  | some option => .ok option.key
  | none => .error (.unknownOption (String.ofList ['-', letter]) [])

/-- What an option word says. -/
def readWord (vocabulary : Vocabulary Key) (word : Text) : Except UsageFault (Word Key) :=
  match vocabulary.named? (nameOf word) with
  | some option =>
      match option.form, attached? word with
      | .value, some value => .ok (.valued option.key value)
      | .value, none => .ok (.awaiting option.key)
      | .flag _, some _ => .error (.unwantedValue option.name)
      | .flag _, none => .ok (.flags [option.key])
  | none =>
      if isLong word then
        .error (.unknownOption (String.ofList (nameOf word)) (vocabulary.similar (nameOf word)))
      else ((word.drop 1).mapM vocabulary.readLetter).map .flags

/-! ## All words -/

/-- The command line with further options in front. -/
def giving (given : List (Key × String)) (line : CommandLine Key) : CommandLine Key :=
  { line with given := given ++ line.given }

/-- The command line with an operand in front. -/
def withOperand (word : String) (line : CommandLine Key) : CommandLine Key :=
  { line with operands := word :: line.operands }

/-- The options and operands of a list of words, or the first fault from the left. -/
def read (vocabulary : Vocabulary Key) (words : List String) :
    Except UsageFault (CommandLine Key) :=
  match words with
  | [] => .ok {}
  | word :: rest =>
      if word = "--" then .ok { operands := rest }
      else if isOption word.toList then
        match vocabulary.readWord word.toList with
        | .error fault => .error fault
        | .ok (.flags keys) => (vocabulary.read rest).map (giving (keys.map fun key => (key, "")))
        | .ok (.valued key value) => (vocabulary.read rest).map (giving [(key, value)])
        | .ok (.awaiting key) =>
            match rest with
            | [] => .error (.missingValue word)
            | value :: others => (vocabulary.read others).map (giving [(key, value)])
      else if vocabulary.mixed then (vocabulary.read rest).map (withOperand word)
      else .ok { operands := word :: rest }
termination_by words.length

/-- Behind two dashes every word is an operand. -/
theorem read_doubleDash (vocabulary : Vocabulary Key) (words : List String) :
    vocabulary.read ("--" :: words) = .ok { operands := words } := by
  rw [read]
  simp

end Vocabulary

/-! ## Settings -/

namespace CommandLine

variable {Key : Type} [DecidableEq Key]

/-- The option was given. -/
def has (line : CommandLine Key) (key : Key) : Bool :=
  line.given.any (·.1 == key)

/-- The options that were given, in the order of their first use. -/
def uses (line : CommandLine Key) : List Key :=
  (line.given.map (·.1)).eraseDups

/-- The value that was last given to an option. -/
def lastValue (line : CommandLine Key) (key : Key) : String :=
  (line.given.reverse.lookup key).getD ""

/-- The settings that the options make: each option counts once, in the order of first use and with
its last value. -/
def settle {Settings : Type} (line : CommandLine Key)
    (set : Settings → Key → String → Except UsageFault Settings) (start : Settings) :
    Except UsageFault Settings :=
  line.uses.foldlM (fun settings key => set settings key (line.lastValue key)) start

end CommandLine
end Command
end BranchFold
