import LuauNodes.Proofs.Completion.Fragment

/-!
# Next to a completion

A name that is put into a text never runs into what stands next to it.  Where the
neighbour is no boundary, a blank comes between the two, and a blank is a
boundary.  The cursor comes to stand behind the name, or behind the blank that
follows it, and right of it is what was right of it before.
-/

namespace LuauNodes.Completion

/-! ## Blanks between neighbours -/

theorem blank_mem_boundaryChars : ' ' ∈ boundaryChars := by decide

/-- What comes in front of a name ends with a boundary, if it is not empty. -/
theorem getLast?_append_spacing {before : List Char} {c : Char}
    (last : c ∈ (before ++ spacing before.getLast?).getLast?) : c ∈ boundaryChars := by
  cases neighbour : before.getLast? with
  | none =>
      obtain rfl := List.getLast?_eq_none_iff.mp neighbour
      simp [spacing] at last
  | some d =>
      rw [neighbour, spacing] at last
      split at last
      · rename_i boundary
        rw [List.append_nil, neighbour, Option.mem_some_iff] at last
        exact last ▸ List.contains_iff_mem.mp boundary
      · rw [List.getLast?_concat, Option.mem_some_iff] at last
        exact last ▸ blank_mem_boundaryChars

/-- What comes behind a name begins with a boundary, if it is not empty. -/
theorem head?_spacing_append {after : List Char} {c : Char}
    (first : c ∈ (spacing after.head? ++ after).head?) : c ∈ boundaryChars := by
  cases after with
  | nil => simp [spacing] at first
  | cons d rest =>
      rw [List.head?_cons, spacing] at first
      split at first
      · rename_i boundary
        rw [List.nil_append, List.head?_cons, Option.mem_some_iff] at first
        exact first ▸ List.contains_iff_mem.mp boundary
      · rw [List.singleton_append, List.head?_cons, Option.mem_some_iff] at first
        exact first ▸ blank_mem_boundaryChars

/-! ## Where a name stands -/

/-- A name ends at a place of a text, and next to it on either side is a boundary or nothing. -/
def StandsApart (text name : List Char) (stop : Nat) : Prop :=
  ∃ front back, text = front ++ name ++ back ∧ front.length + name.length = stop ∧
    (∀ c ∈ front.getLast?, c ∈ boundaryChars) ∧ ∀ c ∈ back.head?, c ∈ boundaryChars

/-- A completed text has the name between a front that ends with a boundary and at most one blank,
behind which the cursor stands and the text goes on as it did. -/
theorem exists_apply_split (text : String) (cursor : Option Int) (name : String) :
    ∃ front behind,
      let rest := text.toList.drop (cursorPlace text.toList.length cursor)
      (apply text cursor name).1.toList = front ++ name.toList ++ (behind ++ rest) ∧
        (apply text cursor name).2 = front.length + name.toList.length + behind.length ∧
          Blank behind ∧ (∀ c ∈ front.getLast?, c ∈ boundaryChars) ∧
            ∀ c ∈ (behind ++ rest).head?, c ∈ boundaryChars := by
  let place := cursorPlace text.toList.length cursor
  let start := place - (fragmentOf (text.toList.take place)).length
  let before := text.toList.take start
  let rest := text.toList.drop place
  refine ⟨before ++ spacing before.getLast?, spacing rest.head?, ?_, ?_, blank_spacing _,
    fun _ => getLast?_append_spacing, fun _ => head?_spacing_append⟩
  · simp [apply, before, rest, start, place]
  · have within : start ≤ text.toList.length :=
      (Nat.sub_le _ _).trans (cursorPlace_le text.toList.length cursor)
    have beforeLength : before.length = start := List.length_take_of_le within
    calc (apply text cursor name).2
        = start + (spacing before.getLast? ++ name.toList ++ spacing rest.head?).length := rfl
      _ = _ := by simp only [List.length_append, beforeLength, Nat.add_assoc]

/-- Where a name and the cursor stand once the name is put into a text. -/
structure Settles (text : String) (cursor : Option Int) (name : String) : Prop where
  /-- The cursor stood in the text. -/
  clamped : (cursorPlace text.toList.length cursor : Int) =
    max 0 (min (cursor.getD text.toList.length) text.toList.length)
  /-- The cursor stands in the new text. -/
  inside : (apply text cursor name).2 ≤ (apply text cursor name).1.toList.length
  /-- What was right of the cursor is right of it again. -/
  right : (apply text cursor name).1.toList.drop (apply text cursor name).2 =
    text.toList.drop (cursorPlace text.toList.length cursor)
  /-- The name ends at the cursor or one place before it, and runs into nothing. -/
  apart : ∃ stop, (stop = (apply text cursor name).2 ∨ stop + 1 = (apply text cursor name).2) ∧
    StandsApart (apply text cursor name).1.toList name.toList stop

/-- Whatever the text, the cursor and the name are, the name that is put in touches boundaries
alone, and the cursor stands behind it and in front of what it stood in front of. -/
theorem apply_settles (text : String) (cursor : Option Int) (name : String) :
    Settles text cursor name := by
  obtain ⟨front, behind, written, cursorAt, blank, left, right⟩ :=
    exists_apply_split text cursor name
  constructor
  case clamped => exact cursorPlace_eq _ _
  case inside =>
    rw [written, cursorAt]
    simp only [List.length_append]
    omega
  case right =>
    rw [written, cursorAt, ← List.append_assoc, ← List.length_append, ← List.length_append,
      List.drop_left]
  case apart =>
    refine ⟨front.length + name.toList.length, ?_, front, _, written, rfl, left, right⟩
    rw [cursorAt]
    rcases blank with rfl | rfl
    · exact Or.inl rfl
    · exact Or.inr rfl

/-- A quotation mark is no boundary, and neither is a letter. -/
example : apply "'b" (some 1) "x" = ("' x b", 4) ∧ apply "(a)b" (some 3) "x" = ("(a)x b", 5) := by
  decide +kernel

end LuauNodes.Completion
