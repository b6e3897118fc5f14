import BranchFold.Rule.Builtin.Vocabulary

/-!
# Reported failures

A call that prints or logs, or a write to an error stream, with a text literal that speaks of an
error.  Everything is compared in any case.  Literals before the one that speaks of the error are
passed over whole; a literal in backquotes is passed over without regard to escapes, so one that
holds an escaped backquote ends too early, and a word behind it may count although it stands outside
every literal.
-/

namespace BranchFold
namespace Builtin

open Pattern

/-! ## Text literals -/

/-- The words that speak of an error. -/
def errorWord : Pattern :=
  anyOf [anyCase "error", inOrder [anyCase "err", edge], anyCase "fail", anyCase "invalid",
    anyCase "cannot", anyCase "can't", anyCase "unable", anyCase "exception", anyCase "fatal",
    anyCase "abort", anyCase "panic"]

/-- One character of a literal with the given quote; a backslash takes the next one with it. -/
def literalUnit (mark : Char) : Pattern :=
  either (one (.outside [mark, '\\'])) (inOrder [char '\\', one .visible])

/-- A whole literal in which a backslash escapes. -/
def escapedLiteral (mark : Char) : Pattern :=
  inOrder [char mark, many (literalUnit mark), char mark]

/-- A whole literal without escapes. -/
def rawLiteral (mark : Char) : Pattern :=
  inOrder [char mark, many (one (.outside [mark])), char mark]

/-- Text outside literals, and whole literals. -/
def passedOver : Pattern :=
  many (anyOf [one (.outside ['"', '\'', '\x60']), escapedLiteral '"', escapedLiteral '\'',
    rawLiteral '\x60'])

/-- A literal opened by the given quote, up to an error word in it. -/
def errorIn (mark : Char) : Pattern :=
  inOrder [char mark, many (literalUnit mark), errorWord]

/-- Text up to an error word inside a literal. -/
def errorInLiteral : Pattern :=
  inOrder [passedOver, anyOf [errorIn '"', errorIn '\'', errorIn '\x60']]

/-! ## Calls and streams -/

/-- The names of calls that print or log. -/
def reportCall : Pattern :=
  anyOf [inOrder [anyCase "console.", anyCases ["log", "error", "warn", "info", "debug"]],
    inOrder [maybe (anyCase "f"), anyCase "printf"], anyCase "perror",
    inOrder [anyCase "eprintln", maybe (char '!')], inOrder [anyCase "println", maybe (char '!')],
    anyCase "print", anyCase "puts",
    inOrder [anyCase "System.", anyCases ["out", "err"], anyCase ".print",
      maybe (anyCases ["ln", "f"])],
    inOrder [anyCase "Console.", maybe (anyCase "Error."), anyCase "Write",
      maybe (anyCase "Line")],
    inOrder [maybe (anyCases ["self.", "this."]), maybe (char '_'),
      anyCases ["log", "logger", "logging"], char '.', oneOrMore wordChar],
    anyCase "syslog", anyCase "warn", anyCase "die"]

/-- A call that prints or logs a literal with an error word. -/
def reportedError : Pattern :=
  inOrder [either textStart (one (.complement (.union .word (.exactly '.')))), reportCall, blanks,
    char '(', errorInLiteral]

/-- A literal with an error word written to an error stream. -/
def streamedError : Pattern :=
  inOrder [edge, maybe (anyCase "std::"), anyCases ["cerr", "clog"], blanks, literal "<<",
    errorInLiteral]

/-- The rule for reported failures. -/
def reportRule : Rule :=
  .pattern "log_error" "log" .content [reportedError, streamedError]

end Builtin
end BranchFold
