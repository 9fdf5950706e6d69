import LuauNodes.Completion
import Mathlib.Data.List.DropRight

/-!
# The fragment at the cursor

A completion is to take the place of the word that ends at the cursor: the
longest one, which is empty where no word character stands there.  What is found
as the fragment is that word, unless the cursor stands behind a line break that
ends a word.  Then the word of the line before is found, and as many characters
are replaced, which are other ones: the line break is among them.
-/

namespace LuauNodes.Completion

open LuauNodes.Text

/-! ## Words at the end of a text -/

/-- A text ends with a word, and with no longer one. -/
structure EndsWord (text word : List Char) : Prop where
  suffix : word <:+ text
  letters : ∀ c ∈ word, isWordChar c = true
  longest : ∀ other, other <:+ text → (∀ c ∈ other, isWordChar c = true) →
    other.length ≤ word.length

theorem endsWord_trailingWord (text : List Char) : EndsWord text (trailingWord text) where
  suffix := List.rtakeWhile_suffix isWordChar text
  letters := fun _ member => List.mem_rtakeWhile_imp member
  longest := by
    rintro other ⟨front, rfl⟩ letters
    have reversed : ∀ c ∈ other.reverse, isWordChar c = true :=
      fun c member => letters c (List.mem_reverse.mp member)
    rw [trailingWord, List.reverse_append, List.takeWhile_append_of_pos reversed]
    simp

/-- The word that a text ends with is one word. -/
theorem endsWord_iff {text word : List Char} : EndsWord text word ↔ word = trailingWord text := by
  refine ⟨fun ends => ?_, fun same => same ▸ endsWord_trailingWord text⟩
  have trailing := endsWord_trailingWord text
  have shorter := trailing.longest word ends.suffix ends.letters
  exact (List.suffix_of_suffix_length_le ends.suffix trailing.suffix shorter).eq_of_length_le
    (ends.longest _ trailing.suffix trailing.letters)

theorem isWordChar_lineBreak : isWordChar '\n' = false := by decide +kernel

theorem trailingWord_line (line : List Char) : trailingWord (line ++ ['\n']) = [] :=
  List.rtakeWhile_concat_neg _ _ _ (by simp [isWordChar_lineBreak])

/-- A line break ends a word. -/
def BreaksOff (text : List Char) : Prop :=
  ∃ line c, text = line ++ [c] ++ ['\n'] ∧ isWordChar c = true

theorem not_breaksOff_of_last {line : List Char} {last : Char} (apart : last ≠ '\n') :
    ¬ BreaksOff (line ++ [last]) := by
  rintro ⟨front, c, same, -⟩
  exact apart (List.append_singleton_inj.mp same).2

theorem breaksOff_line_iff (line : List Char) :
    BreaksOff (line ++ ['\n']) ↔ trailingWord line ≠ [] := by
  rcases List.eq_nil_or_concat' line with rfl | ⟨front, c, rfl⟩
  · refine iff_of_false ?_ (not_not_intro rfl)
    rintro ⟨front, c, same, -⟩
    have short := congrArg List.length same
    simp at short
  · cases letter : isWordChar c with
    | false =>
        have bare : trailingWord (front ++ [c]) = [] :=
          List.rtakeWhile_concat_neg _ _ _ (by simp [letter])
        refine iff_of_false ?_ (not_not_intro bare)
        rintro ⟨other, d, same, letterToo⟩
        have last := (List.append_singleton_inj.mp (List.append_singleton_inj.mp same).1).2
        rw [← last, letter] at letterToo
        cases letterToo
    | true =>
        have whole : trailingWord (front ++ [c]) = trailingWord front ++ [c] :=
          List.rtakeWhile_concat_pos _ _ _ letter
        exact iff_of_true ⟨front, c, rfl, letter⟩ (by simp [whole])

theorem fragmentOf_line (line : List Char) : fragmentOf (line ++ ['\n']) = trailingWord line := by
  simp [fragmentOf]

/-- The fragment at the end of a text is the word there, unless a line break ends a word. -/
theorem fragmentOf_eq_trailingWord_iff (text : List Char) :
    fragmentOf text = trailingWord text ↔ ¬ BreaksOff text := by
  rcases List.eq_nil_or_concat' text with rfl | ⟨line, last, rfl⟩
  · refine iff_of_true rfl ?_
    rintro ⟨line, c, same, -⟩
    simp at same
  · by_cases lineBreak : last = '\n'
    · subst lineBreak
      rw [fragmentOf_line, trailingWord_line, breaksOff_line_iff, not_not]
    · refine iff_of_true ?_ (not_breaksOff_of_last lineBreak)
      simp [fragmentOf, lineBreak]

/-! ## Completions -/

/-- What stands left of the cursor. -/
def leftOf (text : String) (cursor : Option Int) : List Char :=
  text.toList.take (cursorPlace text.toList.length cursor)

/-- The cursor stands at its place, or at the nearest end of the text, and without a place at the
end. -/
theorem cursorPlace_eq (length : Nat) (cursor : Option Int) :
    (cursorPlace length cursor : Int) = max 0 (min (cursor.getD length) length) := by
  unfold cursorPlace
  cases cursor with
  | none => simp
  | some place =>
      dsimp only [Option.getD_some]
      omega

theorem cursorPlace_le (length : Nat) (cursor : Option Int) :
    cursorPlace length cursor ≤ length := by
  have clamped := cursorPlace_eq length cursor
  omega

/-- What stands in front of the word at the cursor, the word, and what stands behind the cursor make
up the text. -/
theorem EndsWord.splits
    {text : String}
    {cursor : Option Int}
    {word : List Char}
    (ends : EndsWord (leftOf text cursor) word) :
    let place := cursorPlace text.toList.length cursor
    text.toList.take (place - word.length) ++ word ++ text.toList.drop place = text.toList := by
  intro place
  obtain ⟨front, split⟩ := ends.suffix
  have inside : place ≤ text.toList.length := cursorPlace_le _ _
  have lengths : front.length + word.length = place := by
    rw [← List.length_append, split, leftOf, List.length_take, min_eq_left inside]
  have start : text.toList.take (place - word.length) = front := by
    calc text.toList.take (place - word.length)
        = (text.toList.take place).take (place - word.length) := by
          rw [List.take_take, min_eq_left (Nat.sub_le _ _)]
      _ = (front ++ word).take front.length := by
          rw [← lengths, Nat.add_sub_cancel, lengths, split]
          rfl
      _ = front := List.take_left
  rw [start, split]
  exact List.take_append_drop place _

/-- Nothing, or one blank. -/
def Blank (text : List Char) : Prop := text = [] ∨ text = [' ']

theorem blank_spacing (neighbour : Option Char) : Blank (spacing neighbour) := by
  unfold spacing
  split
  · split
    · exact Or.inl rfl
    · exact Or.inr rfl
  · exact Or.inl rfl

/-- A fragment is shown at the cursor, and a completion leaves out as many characters in front of
the cursor as it has.  There it puts the name in, with at most one blank on either side, and the
cursor behind it; all else stands where it stood. -/
structure Replaced
    (text : String)
    (cursor : Option Int)
    (name : String)
    (fragment : List Char) :
    Prop where
  shown : fragmentAtCursor text cursor = String.ofList fragment
  put : ∃ before after, Blank before ∧ Blank after ∧
    let place := cursorPlace text.toList.length cursor
    let start := place - fragment.length
    let inserted := before ++ name.toList ++ after
    apply text cursor name =
      (String.ofList (text.toList.take start ++ inserted ++ text.toList.drop place),
        start + inserted.length)

theorem replaced_fragmentOf (text : String) (cursor : Option Int) (name : String) :
    Replaced text cursor name (fragmentOf (leftOf text cursor)) where
  shown := rfl
  put := ⟨_, _, blank_spacing _, blank_spacing _, rfl⟩

theorem Replaced.unique
    {text : String}
    {cursor : Option Int}
    {name : String}
    {fragment : List Char}
    (replaced : Replaced text cursor name fragment) :
    fragment = fragmentOf (leftOf text cursor) :=
  (String.ofList_injective replaced.shown).symm

/-- What is replaced where a name is put in at a cursor. -/
structure Completes (text : String) (cursor : Option Int) (name : String) : Prop where
  /-- The cursor stands in the text. -/
  place : (cursorPlace text.toList.length cursor : Int) =
    max 0 (min (cursor.getD text.toList.length) text.toList.length)
  /-- What is not the word at the cursor stands in front of it or behind the cursor. -/
  whole : ∀ word, EndsWord (leftOf text cursor) word →
    text.toList.take (cursorPlace text.toList.length cursor - word.length) ++ word ++
      text.toList.drop (cursorPlace text.toList.length cursor) = text.toList
  /-- The word at the cursor is replaced, unless a line break in front of the cursor ends a word. -/
  word : (∃ word, EndsWord (leftOf text cursor) word ∧ Replaced text cursor name word) ↔
    ¬ BreaksOff (leftOf text cursor)
  /-- Behind a line break the word of the line before counts as the one at the cursor. -/
  line : ∀ line word, leftOf text cursor = line ++ ['\n'] → EndsWord line word →
    Replaced text cursor name word

/-- Whatever the text, the cursor and the name are, a completion takes the place of the word at the
cursor and of nothing else, unless the cursor stands right behind a line break that ends a word. -/
theorem apply_completes (text : String) (cursor : Option Int) (name : String) :
    Completes text cursor name := by
  have replaced := replaced_fragmentOf text cursor name
  constructor
  case place => exact cursorPlace_eq _ _
  case whole => exact fun _ ends => ends.splits
  case word =>
    rw [← fragmentOf_eq_trailingWord_iff]
    constructor
    · rintro ⟨word, ends, taken⟩
      rw [← taken.unique, endsWord_iff.mp ends]
    · intro same
      exact ⟨_, endsWord_trailingWord _, same ▸ replaced⟩
  case line =>
    intro line word whole ends
    rw [whole, fragmentOf_line, ← endsWord_iff.mp ends] at replaced
    exact replaced

/-- The word is found in the middle of a text, where the cursor is none of the ends. -/
example :
    fragmentAtCursor "local ärger = 1" (some 9) = "ärg" ∧
      apply "local ärger = 1" (some 9) "x" = ("local x er = 1", 8) := by
  decide +kernel

/-- Behind a line break there is no word, but the word of the line before is shown, and its end is
lost together with the line break. -/
theorem not_replaced_behind_line :
    EndsWord (leftOf "abc\n" none) [] ∧ ¬ Replaced "abc\n" none "x" [] ∧
      fragmentAtCursor "abc\n" none = "abc" ∧ apply "abc\n" none "x" = ("a x", 3) := by
  refine ⟨endsWord_iff.mpr (by decide +kernel), fun replaced => ?_, by decide +kernel,
    by decide +kernel⟩
  exact absurd replaced.shown (by decide +kernel)

end LuauNodes.Completion
