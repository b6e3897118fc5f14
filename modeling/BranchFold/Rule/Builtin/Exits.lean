import BranchFold.Rule.Builtin.Vocabulary

/-!
# Leaving with a failure

Statements inside a block that leave it because something failed: a returned error, an exception,
a jump to clean-up code, or a loop step with a comment that names the failure.  Keywords count in
lower case only, values and names of errors in any case.
-/

namespace BranchFold
namespace Builtin

open Pattern

/-! ## Returned failures -/

/-- The keyword of a return statement at the start of the line, with no further word character. -/
def returnWord : Pattern :=
  inOrder [textStart, literal "return", edge]

/-- A return statement whose value has the given shape; one parenthesis may stand before it. -/
def returning (value : Pattern) : Pattern :=
  inOrder [returnWord, blanks, maybe (char '('), blanks, value]

/-- A name that begins like the name of an error. -/
def errorName : Pattern :=
  anyOf [inOrder [anyCase "err", wordChars], inOrder [anyCase "e_", oneOrMore wordChar],
    inOrder [anyCase "fail", wordChars], inOrder [anyCase "invalid", wordChars]]

/-- A negated error constant. -/
def negativeErrorConstant : Pattern :=
  inOrder [char '-', blanks, char 'E',
    oneOrMore (one (.union .asciiCapital (.union .asciiDigit (.exactly '_')))), edge]

/-- The truth value "false" in one of its spellings. -/
def falseValue : Pattern :=
  inOrder [literals ["false", "False", "FALSE"], edge]

/-- An error name, possibly qualified. -/
def qualifiedErrorName : Pattern :=
  inOrder [many (inOrder [oneOrMore wordChar, char '.']), errorName, edge]

/-- A call that builds a failure, anywhere on the line of a return statement. -/
def returnedFailureCall : Pattern :=
  inOrder [returnWord, anything, edge,
    anyOf [literal "Err", inOrder [wordChars, literal "Error"],
      inOrder [wordChars, literal "Exception"], literal "Failure", literal "reject"],
    blanks, char '(']

/-- The shapes of a return statement that reports a failure. -/
def returnPatterns : List Pattern :=
  [returning negativeNumber, returning negativeErrorConstant, returning falseValue,
    returning (inOrder [absentValue, edge]), returning qualifiedErrorName, returnedFailureCall]

/-! ## Exceptions and jumps -/

/-- A keyword at the start of the line, with no further word character. -/
def statementWord (word : String) : Pattern :=
  inOrder [textStart, literal word, edge]

/-- A jump to a label that names a failure or its clean-up. -/
def gotoCleanup : Pattern :=
  inOrder [textStart, literal "goto", oneOrMore (one .blank), wordChars,
    anyCases ["err", "fail", "out", "cleanup", "exit", "bail", "abort", "free", "unlock", "done"],
    wordChars, blanks, maybe (char ';')]

/-- A loop step followed by a comment that holds one of the words. -/
def explainedStep (word : String) (reasons : List String) : Pattern :=
  inOrder [statementWord word, blanks, maybe (char ';'), blanks, either (literal "//") (char '#'),
    anything, anyCases reasons]

/-! ## The rules -/

/-- The keywords in the order in which they are tried, each with its patterns. -/
def exitTable : List (String × List Pattern) :=
  [("return", returnPatterns), ("throw", [statementWord "throw"]),
    ("raise", [statementWord "raise"]), ("goto", [gotoCleanup]),
    ("break", [explainedStep "break" ["err", "fail", "invalid", "abort"]]),
    ("continue", [explainedStep "continue" ["err", "fail", "invalid", "skip"]])]

/-- The rule of a keyword; a keyword outside the table has no patterns. -/
def exitRule (word : String) : Rule :=
  .keyword word ((exitTable.lookup word).getD [])

/-- One rule for each of the keywords. -/
def exitRules (words : List String) : List Rule :=
  words.map exitRule

/-- The keywords of the table. -/
def exitWords : List String :=
  exitTable.map (·.1)

end Builtin
end BranchFold
