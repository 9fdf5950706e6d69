import LuauNodes.Text.AlphanumericTable
import LuauNodes.Text.Range

/-!
# Word characters

Letters, digits and numerics of any script make up a word together with the
underscore.  Identifiers admit the ASCII ones alone, but where a word ends is
decided by the wider class.
-/

namespace LuauNodes.Text

/-- A letter, a digit or a numeric of any script. -/
def isAlphanumeric (c : Char) : Bool :=
  c.isAlphanum || inRanges alphanumericRanges c.toNat

/-- A letter, a digit, a numeric or the underscore. -/
def isWordChar (c : Char) : Bool :=
  c == '_' || isAlphanumeric c

/-- A character that may begin an identifier: an ASCII letter or the underscore. -/
def isNameStart (c : Char) : Bool :=
  c == '_' || c.isAlpha

/-- A character that may continue an identifier: an ASCII letter or digit, or the underscore. -/
def isNameChar (c : Char) : Bool :=
  c == '_' || c.isAlphanum

/-- Everything that may stand in an identifier is a word character. -/
theorem isWordChar_of_isNameChar
    (c : Char)
    (name : isNameChar c = true) :
    isWordChar c = true := by
  simp only [isNameChar, isWordChar, isAlphanumeric, Bool.or_eq_true] at *
  rcases name with underscore | plain
  · exact Or.inl underscore
  · exact Or.inr (Or.inl plain)

end LuauNodes.Text
