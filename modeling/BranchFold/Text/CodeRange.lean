/-!
# Ranges of code points

Properties of characters that no formula gives are tables of closed ranges.  A table is a list
of pairs, first and last code point of each range, in increasing order.
-/

namespace BranchFold
namespace Text

/-- A table of closed ranges of code points. -/
abbrev CodeRanges := List (Nat × Nat)

/-- A code point belongs to a table when one of its ranges holds it. -/
def CodeRanges.holds (table : CodeRanges) (code : Nat) : Bool :=
  table.any fun range => range.1 ≤ code && code ≤ range.2

/-- Membership in a table, spelled out. -/
theorem CodeRanges.holds_iff (table : CodeRanges) (code : Nat) :
    table.holds code = true ↔ ∃ range ∈ table, range.1 ≤ code ∧ code ≤ range.2 := by
  simp [CodeRanges.holds]

end Text
end BranchFold
