import BranchFold.Settings.Environment
import BranchFold.Text.Quoted

/-!
# Log levels

Messages are ranked, and a log shows those that reach its level.  A level is named in the
environment; a name that means nothing falls back to a default.  Two names mean something that is no
rank, a format of messages and the styles in which formats are written, and such a level cannot be
set.
-/

namespace BranchFold

/-- What the name of a level stands for. -/
inductive LogLevel where
  /-- A rank; higher ranks are more urgent. -/
  | rank (value : Int)
  /-- The format of a message, which is no rank. -/
  | format
  /-- The styles of formats, which are no rank either. -/
  | styles
  deriving DecidableEq, Repr

/-- A level that is no rank. -/
inductive UnusableLevel where
  | format
  | styles
  deriving DecidableEq, Repr

namespace LogLevel

/-- The format of a message. -/
def formatText : String :=
  "%(levelname)s:%(name)s:%(message)s"

/-- The styles of formats: the mark of each, its kind and the format of a message in it. -/
def stylesText : String :=
  "\x7b'%': (<class 'logging.PercentStyle'>, '" ++ formatText ++
    "'), '\x7b': (<class 'logging.StrFormatStyle'>, " ++
    "'\x7blevelname\x7d:\x7bname\x7d:\x7bmessage\x7d'), " ++
    "'$': (<class 'logging.StringTemplateStyle'>, " ++
    "'$\x7blevelname\x7d:$\x7bname\x7d:$\x7bmessage\x7d')\x7d"

/-- The rank of messages for developers. -/
def debug : Int := 10

/-- The rank of messages about the normal course of events. -/
def info : Int := 20

/-- The rank of warnings. -/
def warning : Int := 30

/-- The names of levels and what they stand for. -/
def table : List (String × LogLevel) :=
  [("CRITICAL", .rank 50), ("FATAL", .rank 50), ("ERROR", .rank 40), ("WARNING", .rank warning),
    ("WARN", .rank warning), ("INFO", .rank info), ("DEBUG", .rank debug), ("NOTSET", .rank 0),
    ("BASIC_FORMAT", .format), ("_STYLES", .styles)]

/-- The level of that name, in any case. -/
def ofName? (name : String) : Option LogLevel :=
  let wanted := Text.upper name.toList
  (table.find? fun entry => entry.1.toList == wanted).map (·.2)

/-- The level that the environment asks for; a name without meaning gives the default's level. -/
def ofEnvironment (env : Environment) (default : String) : LogLevel :=
  let named := ofName? (env.text "FOLDEB_LOG_LEVEL" default)
  (named.orElse fun _ => ofName? default).getD (.rank info)

/-- The rank of a level, which neither a format nor a style has. -/
def toRank : LogLevel → Except UnusableLevel Int
  | rank value => .ok value
  | format => .error .format
  | styles => .error .styles

/-- The rank from which on a log shows messages: the one asked for, or the environment's. -/
def threshold (asked : Option Int) (env : Environment) (default : String) :
    Except UnusableLevel Int :=
  match asked with
  | some value => .ok value
  | none => (ofEnvironment env default).toRank

/-- The rank from which on messages are in fact shown.  A log of rank zero has no level of its own:
the log above it decides, and that one shows warnings. -/
def effective (threshold : Int) : Int :=
  if threshold = 0 then warning else threshold

/-- A rank that is asked for is always usable. -/
@[simp]
theorem threshold_some (value : Int) (env : Environment) (default : String) :
    threshold (some value) env default = .ok value := rfl

end LogLevel

/-- The complaint about a level that is no rank. -/
def UnusableLevel.message : UnusableLevel → String
  | .format => "Unknown level: " ++ Text.quote LogLevel.formatText
  | .styles => "Level not an integer or a valid string: " ++ LogLevel.stylesText

end BranchFold
