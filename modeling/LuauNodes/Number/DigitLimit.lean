/-!
# The limit on decimal digits

Whole numbers are read from at most a fixed number of decimal digits.
-/

namespace LuauNodes.Number

/-- The most decimal digits that a whole number may have. -/
def maxDigits : Nat := 4300

/-- The wording of the refusal of a number with too many digits. -/
def digitLimitText (count : Nat) : String :=
  s!"Exceeds the limit ({maxDigits} digits) for integer string conversion: " ++
    s!"value has {count} digits; use sys.set_int_max_str_digits() to increase the limit"

end LuauNodes.Number
