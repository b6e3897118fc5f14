import BranchFold.Text.Letter
import BranchFold.Text.Numeral
import BranchFold.Verdict

/-!
# Settings from the environment

Variables of the environment replace defaults.  A value that cannot be read counts as no value.
-/

namespace BranchFold

/-- The variables that are set, each with its value. -/
structure Environment where
  entries : List (String × String) := []
  deriving DecidableEq, Repr

namespace Environment

/-- The value of a variable, if it is set. -/
def get? (env : Environment) (name : String) : Option String :=
  env.entries.lookup name

/-- A variable as text. -/
def text (env : Environment) (name fallback : String) : String :=
  (env.get? name).getD fallback

/-- A variable as an integer. -/
def int (env : Environment) (name : String) (fallback : Int) : Int :=
  ((env.get? name).bind fun value => Text.toInt? value.toList).getD fallback

/-- The truth value that a word stands for, in any case. -/
def truth? (word : String) : Option Bool :=
  let lowered := Text.lower word.toList
  if ["true", "yes", "1"].any (·.toList == lowered) then some true
  else if ["false", "no", "0"].any (·.toList == lowered) then some false
  else none

/-- A variable as a truth value. -/
def bool (env : Environment) (name : String) (fallback : Bool) : Bool :=
  ((env.get? name).bind truth?).getD fallback

@[simp]
theorem int_of_get?_eq_none {env : Environment} {name : String} (h : env.get? name = none)
    (fallback : Int) : env.int name fallback = fallback := by
  simp [int, h]

end Environment

/-- The policy that the environment asks for. -/
def Policy.ofEnvironment (env : Environment) : Policy :=
  let base : Policy := {}
  { base with
    depthGate := env.bool "FOLDEB_DEPTH_GATE" base.depthGate
    depthThreshold := env.int "FOLDEB_DEPTH_THRESHOLD" base.depthThreshold }

/-- What a caller asks for instead of the environment's policy. -/
structure PolicyOverrides where
  depthGate : Option Bool := none
  depthThreshold : Option Int := none
  deriving DecidableEq, Repr

/-- The policy with a caller's wishes in place of its own settings. -/
def Policy.overridden (policy : Policy) (wishes : PolicyOverrides) : Policy :=
  { policy with
    depthGate := wishes.depthGate.getD policy.depthGate
    depthThreshold := wishes.depthThreshold.getD policy.depthThreshold }

/-- Without wishes a policy stays as it is. -/
@[simp]
theorem Policy.overridden_none (policy : Policy) : policy.overridden {} = policy := rfl

end BranchFold
