import LuauNodes.Proofs.Expression.Balancing
import LuauNodes.Proofs.Expression.Printability

/-!
# Reading undoes printing

A printed tree passes every stage of the reader: its text is not blank, its
brackets match, the grammar accepts its tokens, and its numbers have values.
What is read is the tree, unless it is nested too deeply.
-/

namespace LuauNodes.Expression

open LuauNodes.Text

variable {tree : Expr} {text : String}

/-! ## The text is not blank -/

theorem not_isBlank_of_isNameStart {c : Char} (start : isNameStart c = true) :
    isBlank c = false := by
  have range := ascii_of_isNameStart start
  rw [isBlank, ← Bool.not_eq_true, inRanges_iff]
  rintro ⟨interval, member, low, high⟩
  simp only [blankRanges, List.mem_cons, List.not_mem_nil, or_false] at member
  rcases member with rfl | rfl | rfl | rfl | rfl | rfl | rfl | rfl | rfl | rfl <;>
    dsimp only at low high <;> omega

theorem not_isBlank_of_digitWeight {c : Char} (digit : digitWeight c < 16) : isBlank c = false := by
  have all : ∀ c ∈ "0123456789abcdef".toList ++ "0123456789ABCDEF".toList, isBlank c = false := by
    decide
  exact all c (mem_hexDigits_of_digitWeight digit)

theorem Piece.exists_not_blank (piece : Piece) : ∃ c ∈ piece.lexeme, isBlank c = false := by
  cases piece with
  | name text named =>
      have form := named.1
      rw [Piece.lexeme]
      generalize text.toList = characters at form ⊢
      cases characters with
      | nil => cases form
      | cons first others =>
          rw [isPlainIdentifier, Bool.and_eq_true] at form
          exact ⟨first, List.mem_cons_self, not_isBlank_of_isNameStart form.1⟩
  | number value written numbering =>
      cases numbering with
      | decimal digits start _ =>
          rcases List.exists_mem_of_ne_nil _ digits.nonempty with ⟨c, member⟩
          have weight := digits.weight_lt member
          exact ⟨c, List.mem_of_mem_filter member, not_isBlank_of_digitWeight (by omega)⟩
      | hexadecimal _ _ => exact ⟨'0', List.mem_cons_self, by decide⟩
      | binary _ _ => exact ⟨'0', List.mem_cons_self, by decide⟩
  | string quote body quoting _ =>
      refine ⟨quote, List.mem_cons_self, ?_⟩
      rw [isQuote, Bool.or_eq_true, Bool.or_eq_true, beq_iff_eq, beq_iff_eq, beq_iff_eq] at quoting
      rcases quoting with (rfl | rfl) | rfl <;> decide
  | fixed terminal text known =>
      have all : ∀ terminal ∈ Terminal.all, ∀ text ∈ terminal.texts,
          (text.toList.any fun c => !isBlank c) = true := by decide +kernel
      rcases List.any_eq_true.mp (all terminal terminal.mem_all text known) with ⟨c, member, solid⟩
      exact ⟨c, member, by simpa using solid⟩

theorem Spaced.not_blank
    {pieces : List Piece}
    (spaced : Spaced pieces text.toList) :
    isBlankText text = false := by
  rw [isBlankText, ← Bool.not_eq_true, List.all_eq_true]
  intro blank
  generalize text.toList = characters at spaced blank
  cases spaced with
  | @mk gap _ piece _ _ _ =>
      rcases piece.exists_not_blank with ⟨c, member, solid⟩
      have inside := blank c (List.mem_append_right gap (List.mem_append_left _ member))
      rw [solid] at inside
      cases inside

/-! ## Stages -/

/-- The whole of a written tree is read to the end. -/
theorem yields_finish
    {pieces : List Piece}
    (written : Written 0 tree pieces) :
    Yields (fun progress => ∃ whole, progress.finish? = some whole ∧
      Means pieces.length tree whole) pieces .start := by
  have reads : Yields (Reads 0 [] tree pieces.length) pieces .start :=
    reads_written written (hosts_of_admitsChoice rfl)
  apply reads.mono
  rintro _ ⟨whole, opened, last, rfl, means, stands⟩
  refine ⟨whole, ?_, means⟩
  rw [Progress.finish?]
  dsimp only
  rw [stands.closes]
  rfl

theorem readOperand_of_written
    {pieces : List Piece}
    (written : Written 0 tree pieces)
    {characters : List Char}
    (spaced : Spaced pieces characters) :
    ∃ whole, readOperand characters = .ok whole ∧ Means pieces.length tree whole := by
  rcases readTokens_spaced spaced (yields_finish written) with ⟨final, read, whole, finished, means⟩
  refine ⟨whole, ?_, means⟩
  rw [readOperand, read]
  dsimp only
  rw [finished]

theorem Trail.length_le
    {pieces : List Piece}
    {characters : List Char}
    (trail : Trail pieces characters) :
    pieces.length ≤ characters.length := by
  induction trail with
  | done _ => exact Nat.zero_le _
  | @more gap text piece rest _ _ _ ih =>
      have nonempty := List.length_pos_of_ne_nil piece.isLexeme.nonempty
      simp only [List.length_cons, List.length_append]
      omega

theorem Spaced.length_le
    {pieces : List Piece}
    {characters : List Char}
    (spaced : Spaced pieces characters) :
    pieces.length ≤ characters.length := by
  cases spaced with
  | @mk gap text piece rest _ trail =>
      have nonempty := List.length_pos_of_ne_nil piece.isLexeme.nonempty
      have behind := trail.length_le
      simp only [List.length_cons, List.length_append]
      omega

/-- A printed tree is read back, up to columns.  The one exception is a tree that is nested too
deeply, and that takes a text longer than the greatest depth. -/
theorem parse_of_prints
    (prints : Prints tree text)
    (field : String) :
    (parse text field = .error .tooDeep ∧ maxDepth < text.length) ∨
      ∃ found, parse text field = .ok found ∧ found.plain = tree.plain := by
  rcases prints with ⟨pieces, written, spaced⟩
  rcases readOperand_of_written written spaced with ⟨whole, read, means⟩
  have parsed : parse text field = whole.tree? := by
    rw [parse, spaced.not_blank, textBalanceFault?_of_written written spaced, read]
    rfl
  rw [parsed, Operand.tree?, means.sound]
  dsimp only
  by_cases shallow : whole.height ≤ maxDepth
  · right
    rw [if_pos shallow]
    exact ⟨whole.tree, rfl, means.plain⟩
  · left
    rw [if_neg shallow]
    have within := means.height.trans spaced.length_le
    rw [String.length_toList] at within
    exact ⟨rfl, by omega⟩

/-- The product of a sum and a negated power. -/
def product : Expr :=
  .binary default .multiply
    (.binary default .add (.name default "a") (.number default (.whole 31)))
    (.unary default .negate (.binary default .power (.name default "b") (.name default "c")))

theorem prints_product : Prints product "( a + 0x1_F ) * - b ^ c" := by
  have digits : IsDigits 16 ['1', '_', 'F'] := ⟨by decide, by decide⟩
  have denoted : digitsDenote 16 ['1', '_', 'F'] = 31 := by decide
  have numbering := Numbering.hexadecimal (Or.inl (rfl : 'x' = 'x')) digits
  rw [denoted] at numbering
  have sum : Spelled (.binary default .add (.name default "a") (.number default (.whole 31))) _ :=
    .binary (.bare (by decide) (.name (by decide))) (.bare (by decide) (.number numbering))
  have power : Spelled (.binary default .power (.name default "b") (.name default "c")) _ :=
    .binary (.bare (by decide) (.name (by decide))) (.bare (by decide) (.name (by decide)))
  have whole : Spelled product _ :=
    .binary (.grouped (by decide) sum) (.bare (by decide) (.unary (.bare (by decide) power)))
  exact ⟨_, .bare (by decide) whole, spaced_spacedOut _ _⟩

theorem parse_product :
    Prints product "( a + 0x1_F ) * - b ^ c" ∧
      ∃ found, parse "( a + 0x1_F ) * - b ^ c" "value" = .ok found ∧
        found.plain = product.plain := by
  have read := parse_of_prints prints_product "value"
  refine ⟨prints_product, read.resolve_left ?_⟩
  rintro ⟨_, long⟩
  exact absurd long (by decide)

end LuauNodes.Expression
