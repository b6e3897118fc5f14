import BranchFold.Rule.Basic

/-!
# Words and shapes shared by the built-in rules

The building blocks from which the built-in patterns are put together.
-/

namespace BranchFold
namespace Builtin

open Pattern

/-- The values that stand for "no object", in any case. -/
def absentValue : Pattern :=
  anyCases ["null", "nullptr", "nil", "none", "undefined"]

/-- One of two comparisons for equality. -/
def equals : Pattern :=
  inOrder [literal "==", maybe (char '=')]

/-- One of two comparisons for difference. -/
def differs : Pattern :=
  inOrder [literal "!=", maybe (char '=')]

/-- A comparison for equality or difference. -/
def comparison : Pattern :=
  either equals differs

/-- The number zero, with no further word character. -/
def zeroNumber : Pattern :=
  inOrder [char '0', edge]

/-- One or more decimal digits of any script. -/
def digits : Pattern :=
  oneOrMore (one .digit)

/-- A negative number; blanks may stand after the sign. -/
def negativeNumber : Pattern :=
  inOrder [char '-', blanks, digits]

/-- The first character of an identifier. -/
def identifierStart : Pattern :=
  one (.union .asciiLetter (.among ['_', '$']))

/-- One component of an access path. -/
def component : Pattern :=
  inOrder [identifierStart, many (one (.union .word (.exactly '$')))]

/-- An identifier or an access path joined by dots and arrows. -/
def accessPath : Pattern :=
  inOrder [component, many (inOrder [either (char '.') (literal "->"), component])]

end Builtin
end BranchFold
