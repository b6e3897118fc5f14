import BranchFold.Json.Value
import BranchFold.Text.Quoted

/-!
# Writing structured values

Values are written over several lines, two blanks deeper at each level.  Empty arrays and objects
stay on one line.  Texts are written with their own characters or in ASCII alone.  A number that is
not finite has no form of its own and is written as no value.
-/

namespace BranchFold
namespace Json

/-- Which characters of a text are written as they are. -/
inductive Alphabet where
  /-- All characters from the blank on. -/
  | unicode
  /-- The printable characters of ASCII. -/
  | ascii
  deriving DecidableEq, Repr

/-- A character, other than a quote or a backslash, that is written as it is. -/
def Alphabet.shows (alphabet : Alphabet) (c : Char) : Bool :=
  match alphabet with
  | unicode => 32 ≤ c.toNat
  | ascii => 32 ≤ c.toNat && c.toNat < 127

/-- A code unit as an escape of four hexadecimal digits. -/
def escapeUnit (unit : Nat) : Text :=
  '\\' :: 'u' :: Text.hexDigits 4 unit

/-- A code point as escapes; two are needed beyond the first plane. -/
def escapeCode (code : Nat) : Text :=
  if code < 0x10000 then escapeUnit code
  else
    let offset := code - 0x10000
    escapeUnit (0xD800 + offset / 0x400) ++ escapeUnit (0xDC00 + offset % 0x400)

/-- The short escapes and the characters that they stand for. -/
def shortEscapes : List (Char × Char) :=
  [('"', '"'), ('\\', '\\'), ('\n', 'n'), ('\r', 'r'), ('\t', 't'), (Char.ofNat 8, 'b'),
    (Char.ofNat 12, 'f')]

/-- One character of a text. -/
def writeChar (alphabet : Alphabet) (c : Char) : Text :=
  match shortEscapes.lookup c with
  | some short => ['\\', short]
  | none =>
      if alphabet.shows c then [c] else escapeCode c.toNat

/-- A text between quotes. -/
def writeText (alphabet : Alphabet) (s : String) : String :=
  "\"" ++ String.ofList (s.toList.flatMap (writeChar alphabet)) ++ "\""

/-- A number, if it is finite. -/
def writeReal (x : Binary64) : String :=
  match x with
  | .finite _ _ _ => String.ofList x.toText
  | _ => "null"

/-- A new line at a depth. -/
def newLine (depth : Nat) : String :=
  String.ofList ('\n' :: List.replicate (2 * depth) ' ')

/-- Parts inside brackets, each on a line of its own. -/
def writeParts (opening closing : String) (depth : Nat) (parts : List String) : String :=
  if parts.isEmpty then opening ++ closing
  else opening ++ newLine (depth + 1) ++ String.intercalate ("," ++ newLine (depth + 1)) parts ++
    newLine depth ++ closing

mutual
/-- A value at a depth. -/
def writeAt (alphabet : Alphabet) (depth : Nat) : Value → String
  | .null => "null"
  | .bool value => if value then "true" else "false"
  | .int value => toString value
  | .real value => writeReal value
  | .text value => writeText alphabet value
  | .array items => writeParts "[" "]" depth (writeItems alphabet (depth + 1) items)
  | .object members => writeParts "\x7b" "\x7d" depth (writeMembers alphabet (depth + 1) members)

/-- The items of an array. -/
def writeItems (alphabet : Alphabet) (depth : Nat) : List Value → List String
  | [] => []
  | value :: rest => writeAt alphabet depth value :: writeItems alphabet depth rest

/-- The members of an object. -/
def writeMembers (alphabet : Alphabet) (depth : Nat) : List (String × Value) → List String
  | [] => []
  | (key, value) :: rest =>
      (writeText alphabet key ++ ": " ++ writeAt alphabet depth value) ::
        writeMembers alphabet depth rest
end

/-- A value over several lines. -/
def write (alphabet : Alphabet) (value : Value) : String :=
  writeAt alphabet 0 value

end Json
end BranchFold
