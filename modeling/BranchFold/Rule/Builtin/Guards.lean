import BranchFold.Rule.Builtin.Vocabulary

/-!
# Guards and labels

What the line before a block says: a guard condition that leads to error handling, or a label that
exempts the block from the depth gate.
-/

namespace BranchFold
namespace Builtin

open Pattern

/-- A branch keyword as a whole word; loop conditions are not guards. -/
def branchWord : Pattern :=
  inOrder [edge, literals ["if", "elif", "unless", "guard"], edge]

/-- A branch keyword and, later on the same line, the given condition. -/
def guarding (condition : Pattern) : Pattern :=
  inOrder [branchWord, anything, condition]

/-! ## Comparisons with an absent value -/

/-- A comparison for identity written in words. -/
def identityWords : Pattern :=
  anyOf [inOrder [edge, literal "is", oneOrMore (one .blank), literal "not", edge],
    inOrder [edge, literal "is", edge]]

/-- A value compared with an absent value. -/
def comparedWithAbsent : Pattern :=
  guarding (inOrder [either comparison identityWords, blanks, absentValue, edge])

/-- An absent value compared with a value. -/
def absentCompared : Pattern :=
  guarding (inOrder [edge, absentValue, blanks, comparison])

/-- A negated identifier as the whole condition. -/
def negatedCondition : Pattern :=
  inOrder [branchWord, blanks, char '(', blanks, char '!', blanks, maybe (char '('), blanks,
    accessPath, blanks, maybe (char ')'), blanks, char ')']

/-! ## Thresholds -/

/-- A value below or at zero, or below or equal to a negative number. -/
def belowThreshold : Pattern :=
  guarding (anyOf [inOrder [char '<', blanks, zeroNumber],
    inOrder [literal "<=", blanks, zeroNumber],
    inOrder [char '<', blanks, negativeNumber], inOrder [literal "==", blanks, negativeNumber]])

/-- A word that names a status. -/
def statusName : Pattern :=
  inOrder [edge,
    literals ["ret", "rc", "err", "error", "status", "res", "result", "retval", "errno", "rv"],
    wordChars]

/-- A status that differs from zero. -/
def statusNotZero : Pattern :=
  guarding (inOrder [statusName, blanks, literal "!=", blanks, zeroNumber])

/-! ## Empty values -/

/-- A length compared with zero. -/
def lengthIsZero : Pattern :=
  guarding (anyOf [inOrder [literal ".length", blanks, equals, blanks, zeroNumber],
    inOrder [char '.', literals ["size", "count", "Count", "Length"], maybe (char '('),
      maybe (char ')'), blanks, literal "==", blanks, zeroNumber]])

/-- A call that asks whether a container is empty. -/
def emptyCall : Pattern :=
  guarding (inOrder [char '.', literals ["isEmpty", "empty", "IsEmpty"], literal "()"])

/-- The length function compared with zero. -/
def lengthCallIsZero : Pattern :=
  guarding (inOrder [edge, literal "len(", many (one (.outside [')'])), char ')', blanks,
    literal "==", blanks, zeroNumber])

/-- A comparison with the empty literal. -/
def comparedWithEmptyLiteral : Pattern :=
  guarding (inOrder [comparison, blanks, either (literal "\"\"") (literal "''")])

/-- A call that asks whether a text is absent or empty. -/
def absentOrEmptyCall : Pattern :=
  guarding (inOrder [edge, literal "string.IsNullOrEmpty("])

/-- A negated name as the whole condition, before a colon. -/
def negatedName : Pattern :=
  inOrder [edge, literals ["if", "elif"], oneOrMore (one .blank), literal "not",
    oneOrMore (one .blank), accessPath, blanks, char ':']

/-! ## Labels -/

/-- A word and a colon at the end of the line. -/
def trailingLabel : Pattern :=
  inOrder [either textStart (one .blank), one (.union .asciiLetter (.exactly '_')), wordChars,
    char ':', blanks, textEnd]

/-! ## The rules -/

/-- A guard on the line before a block. -/
def guardRule (name : String) (patterns : List Pattern) : Rule :=
  .pattern name "guard" .preceding patterns

/-- One rule for each shape of guard. -/
def conditionRules : List Rule :=
  [guardRule "null_check" [comparedWithAbsent, absentCompared, negatedCondition],
    guardRule "threshold_check" [belowThreshold, statusNotZero],
    guardRule "empty_check" [lengthIsZero, emptyCall, lengthCallIsZero, comparedWithEmptyLiteral,
      absentOrEmptyCall, negatedName]]

/-- The rule that lets labelled blocks through the depth gate. -/
def labelRule : Rule :=
  .pattern "label" "label" .gate [trailingLabel]

end Builtin
end BranchFold
