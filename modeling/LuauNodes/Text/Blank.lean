import LuauNodes.Text.Range

/-!
# Blank characters

A character is blank when Unicode calls it white space or when it is one of the
four information separators.  Names and expressions are stripped of blank
characters on both sides before they are looked at.
-/

namespace LuauNodes.Text

/-- Intervals of the blank characters. -/
def blankRanges : List (Nat × Nat) :=
  [(0x9, 0xd), (0x1c, 0x20), (0x85, 0x85), (0xa0, 0xa0), (0x1680, 0x1680), (0x2000, 0x200a),
   (0x2028, 0x2029), (0x202f, 0x202f), (0x205f, 0x205f), (0x3000, 0x3000)]

/-- White space in the Unicode sense, or an information separator. -/
def isBlank (c : Char) : Bool :=
  inRanges blankRanges c.toNat

/-- White space in the Unicode sense alone, as numbers written in text are trimmed. -/
def isWhiteSpace (c : Char) : Bool :=
  isBlank c && !inRanges [(0x1c, 0x1f)] c.toNat

/-- Removes the characters of a class from both ends. -/
def trimBy (drop : Char → Bool) (text : List Char) : List Char :=
  ((text.dropWhile drop).reverse.dropWhile drop).reverse

/-- Removes blank characters from both ends. -/
def strip (text : String) : String :=
  String.ofList (trimBy isBlank text.toList)

/-- Nothing but blank characters, or nothing at all. -/
def isBlankText (text : String) : Bool :=
  text.toList.all isBlank

theorem exists_not_of_trimBy_ne_nil
    {drop : Char → Bool}
    {text : List Char}
    (kept : trimBy drop text ≠ []) :
    ∃ c ∈ trimBy drop text, drop c = false := by
  let rest := (text.dropWhile drop).reverse.dropWhile drop
  have inhabited : rest ≠ [] := fun none => kept (by rw [trimBy]; exact congrArg List.reverse none)
  exact ⟨rest.head inhabited, List.mem_reverse.mpr (List.head_mem inhabited),
    List.head_dropWhile_not drop inhabited⟩

theorem mem_of_mem_trimBy
    {drop : Char → Bool}
    {text : List Char}
    {c : Char}
    (member : c ∈ trimBy drop text) :
    c ∈ text :=
  (List.dropWhile_sublist drop).mem
    (List.mem_reverse.mp ((List.dropWhile_sublist drop).mem (List.mem_reverse.mp member)))

theorem mem_dropWhile_of_not
    {drop : Char → Bool}
    {text : List Char}
    {c : Char}
    (kept : drop c = false)
    (member : c ∈ text) :
    c ∈ text.dropWhile drop := by
  rw [← List.takeWhile_append_dropWhile (p := drop) (l := text), List.mem_append] at member
  rcases member with front | rest
  · have dropped := List.all_eq_true.mp List.all_takeWhile c front
    rw [kept] at dropped
    cases dropped
  · exact rest

/-- Trimming loses no character that is to be kept. -/
theorem mem_trimBy_of_not
    {drop : Char → Bool}
    {text : List Char}
    {c : Char}
    (kept : drop c = false)
    (member : c ∈ text) :
    c ∈ trimBy drop text :=
  List.mem_reverse.mpr
    (mem_dropWhile_of_not kept (List.mem_reverse.mpr (mem_dropWhile_of_not kept member)))

theorem dropWhile_eq_self
    {drop : Char → Bool}
    {text : List Char}
    (kept : ∀ first rest, text = first :: rest → drop first = false) :
    text.dropWhile drop = text := by
  cases text with
  | nil => rfl
  | cons first rest => rw [List.dropWhile_cons, kept first rest rfl, if_neg Bool.false_ne_true]

theorem drop_head_of_dropWhile
    {drop : Char → Bool}
    {text rest : List Char}
    {first : Char}
    (whole : text.dropWhile drop = first :: rest) : drop first = false := by
  have inhabited : text.dropWhile drop ≠ [] := by simp [whole]
  have kept := List.head_dropWhile_not drop inhabited
  simpa [whole] using kept

/-- What is trimmed has nothing to trim. -/
theorem trimBy_trimBy (drop : Char → Bool) (text : List Char) :
    trimBy drop (trimBy drop text) = trimBy drop text := by
  let front := text.dropWhile drop
  let kept := front.reverse.dropWhile drop
  -- What is kept begins where the front begins, and it ends where the back was cut off.
  have split : front = kept.reverse ++ (front.reverse.takeWhile drop).reverse := by
    rw [← List.reverse_append, List.takeWhile_append_dropWhile, List.reverse_reverse]
  have begins : kept.reverse.dropWhile drop = kept.reverse := by
    refine dropWhile_eq_self fun first rest whole => ?_
    rw [whole, List.cons_append] at split
    exact drop_head_of_dropWhile split
  have ends : kept.dropWhile drop = kept := dropWhile_eq_self fun _ _ => drop_head_of_dropWhile
  show ((kept.reverse.dropWhile drop).reverse.dropWhile drop).reverse = kept.reverse
  rw [begins, List.reverse_reverse, ends]

theorem strip_strip (text : String) : strip (strip text) = strip text := by
  rw [strip, strip, String.toList_ofList, trimBy_trimBy]

/-- Nothing is left of a text without the blanks around it exactly if it is blank. -/
theorem isEmpty_strip (text : String) : (strip text).isEmpty = isBlankText text := by
  rw [isBlankText, Bool.eq_iff_iff, String.isEmpty_iff, List.all_eq_true]
  constructor
  · intro none c member
    cases blank : isBlank c with
    | true => rfl
    | false =>
        have left : c ∈ (strip text).toList := by
          rw [strip, String.toList_ofList]
          exact mem_trimBy_of_not blank member
        rw [none] at left
        cases left
  · intro blank
    have none : trimBy isBlank text.toList = [] := by
      refine Decidable.byContradiction fun kept => ?_
      obtain ⟨c, member, visible⟩ := exists_not_of_trimBy_ne_nil kept
      rw [blank c (mem_of_mem_trimBy member)] at visible
      cases visible
    rw [strip, none]

/-- What is left of a text without the blanks around it is blank only if it is empty. -/
theorem isBlankText_strip
    {text : String}
    (kept : (strip text).isEmpty = false) :
    isBlankText (strip text) = false := by
  rw [← isEmpty_strip, strip_strip, kept]

end LuauNodes.Text
