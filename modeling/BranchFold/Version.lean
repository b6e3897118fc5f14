/-!
# The version of the program
-/

namespace BranchFold

/-- The version that the program states. -/
def version : String := "0.1.0"

end BranchFold
