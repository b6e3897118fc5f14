import BranchFold.Document.Lines
import BranchFold.Files.Tree
import BranchFold.Text.Utf8

/-!
# Reading documents

A document is read from the file to which a path leads; the file must come to an end and hold text.
-/

namespace BranchFold

/-- Why a document cannot be read. -/
inductive ReadFault where
  /-- The path leads to no file, or to one that is refused. -/
  | unreachable (path : String) (cause : PathFault)
  /-- The file is opened, but reading it breaks off. -/
  | brokenOff (cause : Refusal)
  /-- The file holds no text. -/
  | undecodable (cause : Utf8.Fault)
  /-- The file never comes to an end, so that reading it does not either. -/
  | endless
  deriving DecidableEq, Repr

/-- What is said about a document that cannot be read. -/
def ReadFault.message : ReadFault → String
  | unreachable path cause => cause.message path
  | brokenOff cause => cause.message
  | undecodable cause => cause.message
  | endless => "the file never comes to an end"

/-- The fault comes to light and lies in the file system or in the file, and not in a path that can
name nothing. -/
def ReadFault.isReported : ReadFault → Bool
  | unreachable _ .nullCharacter => false
  | endless => false
  | _ => true

/-- The bytes that reading a file gives. -/
def Reading.outcome (path : String) : Reading → Except ReadFault (List UInt8)
  | bytes content => .ok content
  | refused cause => .error (.unreachable path (.refused cause))
  | brokenOff cause => .error (.brokenOff cause)
  | endless => .error .endless

namespace FileSystem

/-- The bytes of the file to which a path leads. -/
def readBytes (fs : FileSystem) (path : String) : Except ReadFault (List UInt8) :=
  match fs.locate path.toList with
  | .ok (.file _ reading) => reading.outcome path
  | .ok node =>
      .error (.unreachable path (if node.deniesReading then .refused .denied else .isAFolder))
  | .error cause => .error (.unreachable path cause)

/-- The lines of the file to which a path leads. -/
def readDocument (fs : FileSystem) (path : String) : Except ReadFault Document := do
  let bytes ← fs.readBytes path
  match Utf8.decode bytes with
  | .ok text => .ok (Document.ofText text)
  | .error cause => .error (.undecodable cause)

end FileSystem
end BranchFold
