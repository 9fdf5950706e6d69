/-!
# Intervals of code points

Character properties are kept as tables of closed intervals.  Membership is a
test on the code point, so a property is decided without any character data
beyond its table.
-/

namespace LuauNodes.Text

/-- A code point lies in one of the closed intervals of the table. -/
def inRanges
    (table : List (Nat × Nat))
    (code : Nat) :
    Bool :=
  table.any fun interval => interval.1 ≤ code && code ≤ interval.2

theorem inRanges_iff
    (table : List (Nat × Nat))
    (code : Nat) :
    inRanges table code = true ↔
      ∃ interval ∈ table, interval.1 ≤ code ∧ code ≤ interval.2 := by
  simp [inRanges]

end LuauNodes.Text
