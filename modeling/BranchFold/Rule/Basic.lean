import BranchFold.Pattern.Search
import BranchFold.Text.Quoted

/-!
# Rules about one line

A rule answers one question about one line of a document.  Its scope says which line of a block it
is asked about and what a positive answer means.  Rules trim the line themselves.

Main definitions:

- {lit}`Scope`: where a rule is asked and what its answer decides.
- {lit}`Rule`: a named choice of patterns, possibly bound to an opening keyword, or a test of the
  host's own.
- {lit}`RuleSet`: rules in the order in which they are tried.
-/

namespace BranchFold

/-! ## Scopes -/

/-- The line of a block that a rule is asked about. -/
inductive Scope where
  /-- The line before the block; a match accepts the block. -/
  | preceding
  /-- The lines at the block's own indentation; a match accepts the block. -/
  | content
  /-- The line before the block; a match lets the block through the depth gate. -/
  | gate
  deriving DecidableEq, Repr

namespace Scope

/-- The name of a scope. -/
def name : Scope → String
  | preceding => "preceding"
  | content => "content"
  | gate => "gate"

/-- All scopes. -/
def all : List Scope :=
  [preceding, content, gate]

/-- The scope of that name. -/
def ofName? (name : String) : Option Scope :=
  all.find? (·.name == name)

/-- A scope is found under its own name. -/
@[simp]
theorem ofName?_name (scope : Scope) : ofName? scope.name = some scope := by
  cases scope <;> rfl

end Scope

/-- A word that names no scope. -/
structure UnknownScope where
  name : String
  deriving DecidableEq, Repr

/-- The complaint about a word that names no scope. -/
def UnknownScope.message (fault : UnknownScope) : String :=
  Text.quote fault.name ++ " is not a valid RuleScope"

/-! ## Rules -/

/-- A question about one line. -/
inductive Rule where
  /-- Does one of the patterns occur in the trimmed line? -/
  | pattern (name category : String) (scope : Scope) (patterns : List Pattern)
  /-- Does the trimmed line begin with the keyword, and does one of the patterns occur in it? -/
  | keyword (word : String) (patterns : List Pattern)
  /-- Does the host's own test hold of the line as it stands?  The kind is what such rules are
  called. -/
  | custom (kind name category : String) (scope : Scope) (test : Line → Bool)

namespace Rule

/-- The name under which a rule is reported; a keyword rule is named for its keyword. -/
def name : Rule → String
  | pattern name _ _ _ => name
  | keyword word _ => word
  | custom _ name _ _ _ => name

/-- The family to which a rule belongs. -/
def category : Rule → String
  | pattern _ category _ _ => category
  | keyword _ _ => "keyword"
  | custom _ _ category _ _ => category

/-- The line that the rule is asked about; keywords are looked for in the block itself. -/
def scope : Rule → Scope
  | pattern _ _ scope _ => scope
  | keyword _ _ => .content
  | custom _ _ _ scope _ => scope

/-- The patterns of a rule; a test of the host's own has none. -/
def patterns : Rule → List Pattern
  | pattern _ _ _ patterns => patterns
  | keyword _ patterns => patterns
  | custom _ _ _ _ _ => []

/-- The opening that the trimmed line must have before any pattern is tried. -/
def opening : Rule → Text
  | pattern _ _ _ _ => []
  | keyword word _ => word.toList
  | custom _ _ _ _ _ => []

/-- The trimmed line has the opening of the rule, and one of its patterns occurs in it. -/
def showsPattern (rule : Rule) (line : Line) : Bool :=
  let trimmed := Text.trim line
  Text.startsWith trimmed rule.opening && rule.patterns.any (·.occursIn trimmed)

/-- The rule answers yes for the line. -/
def accepts (rule : Rule) (line : Line) : Bool :=
  match rule with
  | custom _ _ _ _ test => test line
  | _ => rule.showsPattern line

/-- The positions, in the rule, of the patterns that alone would make it answer yes. -/
def acceptingPatterns (rule : Rule) (line : Line) : List Nat :=
  let trimmed := Text.trim line
  if Text.startsWith trimmed rule.opening then
    rule.patterns.zipIdx.filterMap fun (p, i) => if p.occursIn trimmed then some i else none
  else []

/-- The rule as it is shown to a developer. -/
def shown (rule : Rule) : String :=
  let kind := match rule with
    | pattern _ _ _ _ => "PatternRule"
    | keyword _ _ => "KeywordRule"
    | custom kind _ _ _ _ => kind
  kind ++ "(name=" ++ Text.quote rule.name ++ ", scope=" ++ Text.quote rule.scope.name ++ ")"

/-- A rule without patterns shows none in any line. -/
theorem showsPattern_eq_false_of_patterns_eq_nil {rule : Rule} (h : rule.patterns = [])
    (line : Line) : rule.showsPattern line = false := by
  simp [showsPattern, h]

end Rule

/-! ## Rule sets -/

/-- Rules in the order in which they are tried. -/
structure RuleSet where
  rules : List Rule

namespace RuleSet

/-- The rules of one scope, in order. -/
def inScope (set : RuleSet) (scope : Scope) : List Rule :=
  set.rules.filter (·.scope == scope)

/-- The first rule of the scope that answers yes for the line. -/
def firstMatch (set : RuleSet) (line : Line) (scope : Scope) : Option Rule :=
  (set.inScope scope).find? (·.accepts line)

/-- The rule set with further rules after its own. -/
def extended (set : RuleSet) (further : List Rule) : RuleSet :=
  ⟨set.rules ++ further⟩

/-- An extension appends in every scope. -/
@[simp]
theorem inScope_extended (set : RuleSet) (further : List Rule) (scope : Scope) :
    (set.extended further).inScope scope =
      set.inScope scope ++ (RuleSet.mk further).inScope scope := by
  simp [inScope, extended]

/-- The first match is a rule of the set, of the scope asked for, and it accepts the line. -/
theorem firstMatch_some {set : RuleSet} {line : Line} {scope : Scope} {rule : Rule}
    (h : set.firstMatch line scope = some rule) :
    rule ∈ set.rules ∧ rule.scope = scope ∧ rule.accepts line = true := by
  have hmem := List.mem_of_find?_eq_some h
  have haccepts := List.find?_some h
  simp only [inScope, List.mem_filter, beq_iff_eq] at hmem
  exact ⟨hmem.1, hmem.2, haccepts⟩

end RuleSet
end BranchFold
