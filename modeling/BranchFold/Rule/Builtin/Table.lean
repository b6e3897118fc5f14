import BranchFold.Rule.Builtin.Exits
import BranchFold.Rule.Builtin.Guards
import BranchFold.Rule.Builtin.Reports

/-!
# The built-in rule set

Guards come first, then labels, keywords and reports, so a line that is both a failing exit and a
report is put down to its keyword.
-/

namespace BranchFold
namespace Builtin

/-- All built-in rules in the order in which they are tried. -/
def rules : List Rule :=
  conditionRules ++ [labelRule] ++ exitRules exitWords ++ [reportRule]

/-- The built-in rule set. -/
def ruleSet : RuleSet :=
  ⟨rules⟩

/-- The pattern at a position of the built-in rule of that name. -/
def pattern? (rule : String) (index : Nat) : Option Pattern :=
  (rules.find? (·.name == rule)).bind (·.patterns[index]?)

/-- There are eleven built-in rules. -/
theorem length_rules : rules.length = 11 := rfl

end Builtin
end BranchFold
