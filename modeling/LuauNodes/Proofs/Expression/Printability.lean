import LuauNodes.Proofs.Expression.Reading
import Mathlib.Data.Nat.Digits.Lemmas

/-!
# Printable trees

Which trees a printer can write: names must be names, numbers whole and of a
length that is read again, strings free of what their quotes exclude, and a
choice has at least one branch.  Each of these trees has a printed form.
-/

namespace LuauNodes.Expression

mutual

/-- A tree that a printer can write. -/
def Expr.Printable : Expr → Prop
  | .name _ name => IsName name
  | .number _ (.whole value) => (Nat.digits 10 value).length ≤ Number.maxDigits
  | .number _ (.real _) => False
  | .string _ body => ∃ quote, isQuote quote = true ∧ IsBody quote body.toList
  | .boolean _ _ => True
  | .nil _ => True
  | .unary _ _ operand => operand.Printable
  | .binary _ _ left right => left.Printable ∧ right.Printable
  | .field _ target name => target.Printable ∧ IsName name
  | .index _ target key => target.Printable ∧ key.Printable
  | .call _ callee arguments => callee.Printable ∧ PrintableArguments arguments
  | .method _ target name arguments =>
    target.Printable ∧ IsName name ∧ PrintableArguments arguments
  | .table _ fields => PrintableFields fields
  | .choice _ branches otherwise =>
    branches ≠ [] ∧ PrintableBranches branches ∧ otherwise.Printable

/-- Arguments that a printer can write. -/
def PrintableArguments : List Expr → Prop
  | [] => True
  | argument :: rest => argument.Printable ∧ PrintableArguments rest

/-- Table fields that a printer can write. -/
def PrintableFields : List TableField → Prop
  | [] => True
  | .keyed key value :: rest => key.Printable ∧ value.Printable ∧ PrintableFields rest
  | .named name value :: rest => IsName name ∧ value.Printable ∧ PrintableFields rest
  | .positional value :: rest => value.Printable ∧ PrintableFields rest

/-- Branches that a printer can write. -/
def PrintableBranches : List Branch → Prop
  | [] => True
  | .mk condition value :: rest =>
    condition.Printable ∧ value.Printable ∧ PrintableBranches rest

end

/-! ## Numbers -/

/-- The decimal digits of a number as it is written; none for zero. -/
def decimalDigits (value : Nat) : List Char :=
  (Nat.digits 10 value).reverse.map Nat.digitChar

theorem digitWeight_digitChar : ∀ digit < 10, digitWeight (Nat.digitChar digit) = digit := by
  decide

theorem digitWeight_lt_of_mem_decimalDigits
    {value : Nat}
    {c : Char}
    (member : c ∈ decimalDigits value) :
    digitWeight c < 10 := by
  rcases List.mem_map.mp member with ⟨digit, inside, rfl⟩
  have small : digit < 10 := Nat.digits_lt_base (by decide) (List.mem_reverse.mp inside)
  rw [digitWeight_digitChar digit small]
  exact small

theorem ne_underscore_of_digitWeight
    {c : Char}
    (digit : digitWeight c < 10) :
    c ≠ '_' := by
  rintro rfl
  exact absurd digit (by decide)

theorem bareDigits_decimalDigits (value : Nat) :
    bareDigits (decimalDigits value) = decimalDigits value := by
  apply List.filter_eq_self.mpr
  intro c member
  exact decide_eq_true (ne_underscore_of_digitWeight (digitWeight_lt_of_mem_decimalDigits member))

theorem digitsDenote_decimalDigits (value : Nat) :
    digitsDenote 10 (decimalDigits value) = value := by
  have weights : (Nat.digits 10 value).map (digitWeight ∘ Nat.digitChar) =
      (Nat.digits 10 value).map id := by
    apply List.map_congr_left
    intro digit member
    exact digitWeight_digitChar digit (Nat.digits_lt_base (by decide) member)
  rw [digitsDenote, bareDigits_decimalDigits, decimalDigits, ← List.map_reverse,
    List.reverse_reverse, List.map_map, weights, List.map_id, Nat.ofDigits_digits]

/-- A number other than zero is written with its decimal digits. -/
theorem numbering_decimalDigits
    {value : Nat}
    (positive : value ≠ 0)
    (limited : (Nat.digits 10 value).length ≤ Number.maxDigits) :
    Numbering value (decimalDigits value) := by
  have digits : IsDigits 10 (decimalDigits value) := by
    constructor
    · intro c member
      exact Or.inr (digitWeight_lt_of_mem_decimalDigits member)
    · rw [bareDigits_decimalDigits, decimalDigits]
      simpa using Nat.digits_ne_nil_iff_ne_zero.mpr positive
  have start : (decimalDigits value).head? ≠ some '_' := by
    intro underscore
    have weight := digitWeight_lt_of_mem_decimalDigits (List.mem_of_mem_head? underscore)
    exact ne_underscore_of_digitWeight weight rfl
  have short : (bareDigits (decimalDigits value)).length ≤ Number.maxDigits := by
    rw [bareDigits_decimalDigits, decimalDigits, List.length_map, List.length_reverse]
    exact limited
  have numbering := Numbering.decimal digits start short
  rwa [digitsDenote_decimalDigits] at numbering

theorem exists_numbering
    {value : Nat}
    (limited : (Nat.digits 10 value).length ≤ Number.maxDigits) :
    ∃ written, Numbering value written := by
  by_cases zero : value = 0
  · have digits : IsDigits 10 ['0'] := ⟨by decide, by decide⟩
    subst zero
    exact ⟨['0'], .decimal digits (by decide) (by decide)⟩
  · exact ⟨decimalDigits value, numbering_decimalDigits zero limited⟩

/-! ## Trees -/

theorem Spelled.exists_written
    {tree : Expr}
    {pieces : List Piece}
    (spelled : Spelled tree pieces)
    (rank : Nat) :
    ∃ whole, Written rank tree whole := by
  rcases Nat.lt_or_ge tree.rank rank with low | fits
  · exact ⟨_, .grouped low spelled⟩
  · exact ⟨pieces, .bare fits spelled⟩

mutual

theorem exists_spelled
    (tree : Expr)
    (printable : tree.Printable) :
    ∃ pieces, Spelled tree pieces := by
  match tree with
  | .name _ _ => exact ⟨_, .name printable⟩
  | .number _ (.whole value) =>
      rcases exists_numbering printable with ⟨written, numbering⟩
      exact ⟨_, .number numbering⟩
  | .number _ (.real _) => exact printable.elim
  | .string span body =>
      rcases printable with ⟨quote, quoting, inside⟩
      have spelled : Spelled (.string span (String.ofList body.toList)) _ := .string quoting inside
      rw [String.ofList_toList] at spelled
      exact ⟨_, spelled⟩
  | .boolean _ true => exact ⟨_, .true⟩
  | .boolean _ false => exact ⟨_, .false⟩
  | .nil _ => exact ⟨_, .nil⟩
  | .unary _ operator operand =>
      rcases exists_written operand printable unaryRank with ⟨pieces, written⟩
      exact ⟨_, .unary written⟩
  | .binary _ operator left right =>
      rcases exists_written left printable.1 operator.leftRank with ⟨leftPieces, leftWritten⟩
      rcases exists_written right printable.2 operator.rightRank with ⟨rightPieces, rightWritten⟩
      exact ⟨_, .binary leftWritten rightWritten⟩
  | .field _ target name =>
      rcases exists_written target printable.1 postfixRank with ⟨pieces, written⟩
      exact ⟨_, .field written printable.2⟩
  | .index _ target key =>
      rcases exists_written target printable.1 postfixRank with ⟨pieces, written⟩
      rcases exists_written key printable.2 0 with ⟨keyPieces, keyWritten⟩
      exact ⟨_, .index written keyWritten⟩
  | .call _ callee arguments =>
      rcases exists_written callee printable.1 postfixRank with ⟨pieces, written⟩
      rcases exists_writtenArguments arguments printable.2 with ⟨_, argumentsWritten⟩
      exact ⟨_, .call written argumentsWritten⟩
  | .method _ target name arguments =>
      rcases exists_written target printable.1 postfixRank with ⟨pieces, written⟩
      rcases exists_writtenArguments arguments printable.2.2 with ⟨_, argumentsWritten⟩
      exact ⟨_, .method written printable.2.1 argumentsWritten⟩
  | .table _ fields =>
      rcases exists_writtenFields fields printable with ⟨pieces, written⟩
      exact ⟨_, .table written⟩
  | .choice _ [] otherwise => exact absurd rfl printable.1
  | .choice _ (.mk condition value :: others) otherwise =>
      rcases printable with ⟨_, branchesPrintable, otherwisePrintable⟩
      rcases exists_written condition branchesPrintable.1 0 with ⟨_, written⟩
      rcases exists_written value branchesPrintable.2.1 0 with ⟨_, valueWritten⟩
      rcases exists_writtenBranches others branchesPrintable.2.2 with ⟨_, othersWritten⟩
      rcases exists_written otherwise otherwisePrintable 0 with ⟨_, otherwiseWritten⟩
      exact ⟨_, .choice (.mk written valueWritten) othersWritten otherwiseWritten⟩

theorem exists_written
    (tree : Expr)
    (printable : tree.Printable)
    (rank : Nat) :
    ∃ pieces, Written rank tree pieces := by
  rcases exists_spelled tree printable with ⟨pieces, spelled⟩
  exact spelled.exists_written rank

theorem exists_writtenArguments
    (arguments : List Expr)
    (printable : PrintableArguments arguments) :
    ∃ pieces, WrittenArguments arguments pieces := by
  match arguments with
  | [] => exact ⟨[], .none⟩
  | first :: others =>
      rcases exists_written first printable.1 0 with ⟨_, written⟩
      rcases exists_furtherArguments others printable.2 with ⟨_, othersWritten⟩
      exact ⟨_, .some written othersWritten⟩

theorem exists_furtherArguments
    (arguments : List Expr)
    (printable : PrintableArguments arguments) :
    ∃ pieces, FurtherArguments arguments pieces := by
  match arguments with
  | [] => exact ⟨[], .none⟩
  | next :: others =>
      rcases exists_written next printable.1 0 with ⟨_, written⟩
      rcases exists_furtherArguments others printable.2 with ⟨_, othersWritten⟩
      exact ⟨_, .some written othersWritten⟩

theorem exists_writtenFields
    (fields : List TableField)
    (printable : PrintableFields fields) :
    ∃ pieces, WrittenFields fields pieces := by
  -- A separator stands behind every field, also the last one.
  match fields with
  | [] => exact ⟨[], .none⟩
  | .keyed key value :: others =>
      rcases exists_written key printable.1 0 with ⟨_, keyWritten⟩
      rcases exists_written value printable.2.1 0 with ⟨_, written⟩
      rcases exists_writtenFields others printable.2.2 with ⟨_, othersWritten⟩
      exact ⟨_, .more (.keyed keyWritten written) (Or.inl rfl) othersWritten⟩
  | .named name value :: others =>
      rcases exists_written value printable.2.1 0 with ⟨_, written⟩
      rcases exists_writtenFields others printable.2.2 with ⟨_, othersWritten⟩
      exact ⟨_, .more (.named printable.1 written) (Or.inl rfl) othersWritten⟩
  | .positional value :: others =>
      rcases exists_written value printable.1 0 with ⟨_, written⟩
      rcases exists_writtenFields others printable.2 with ⟨_, othersWritten⟩
      exact ⟨_, .more (.positional written) (Or.inl rfl) othersWritten⟩

theorem exists_writtenBranches
    (branches : List Branch)
    (printable : PrintableBranches branches) :
    ∃ pieces, WrittenBranches branches pieces := by
  match branches with
  | [] => exact ⟨[], .none⟩
  | .mk condition value :: others =>
      rcases exists_written condition printable.1 0 with ⟨_, written⟩
      rcases exists_written value printable.2.1 0 with ⟨_, valueWritten⟩
      rcases exists_writtenBranches others printable.2.2 with ⟨_, othersWritten⟩
      exact ⟨_, .some (.mk written valueWritten) othersWritten⟩

end

/-! ## Texts -/

/-- Tokens with a single space in front of each. -/
def spacedOut (pieces : List Piece) : List Char :=
  pieces.flatMap fun piece => ' ' :: piece.lexeme

theorem trail_spacedOut (pieces : List Piece) : Trail pieces (spacedOut pieces) := by
  induction pieces with
  | nil => exact .done (List.forall_mem_nil _)
  | cons piece rest ih =>
      have gap : IsGap [' '] := List.forall_mem_singleton.mpr rfl
      exact .more gap (List.cons_ne_nil _ _) ih

theorem spaced_spacedOut
    (piece : Piece)
    (rest : List Piece) :
    Spaced (piece :: rest) (piece.lexeme ++ spacedOut rest) := by
  have spaced : Spaced (piece :: rest) ([] ++ (piece.lexeme ++ spacedOut rest)) :=
    .mk (List.forall_mem_nil _) (trail_spacedOut rest)
  rwa [List.nil_append] at spaced

/-- Every printable tree has a printed form. -/
theorem exists_prints
    {tree : Expr}
    (printable : tree.Printable) :
    ∃ text, Prints tree text := by
  rcases exists_written tree printable 0 with ⟨pieces, written⟩
  cases pieces with
  | nil => exact absurd rfl written.ne_nil
  | cons piece rest =>
      refine ⟨String.ofList (piece.lexeme ++ spacedOut rest), piece :: rest, written, ?_⟩
      rw [String.toList_ofList]
      exact spaced_spacedOut piece rest

end LuauNodes.Expression
