import LuauNodes.Proofs.Expression.Levels

/-!
# Reading constructs

One rule for each construct of the grammar: if its parts are read where they
stand, then so is the construct, and it means what it is made of.
-/

namespace LuauNodes.Expression

variable {frames opened : List Frame} {whole last : Operand} {rank size : Nat} {tree : Expr}
  {pieces rest : List Piece} {piece : Piece} {progress : Progress} {Holds : Progress → Prop}

/-! ## Single tokens -/

theorem yields_cons
    (moves : ∀ token : Token, token.Shows piece →
      ∃ further, Moves token progress further ∧ Yields Holds rest further) :
    Yields Holds (piece :: rest) progress := by
  intro token shows
  rcases moves token shows with ⟨further, moves, onward⟩
  exact ⟨further, step_of_moves moves, onward⟩

/-- A token that closes the innermost construct with the operand that stands above it. -/
theorem yields_closing
    {outer : List Frame}
    (closed : close opened last = (outer, whole))
    (closes : ∀ token : Token, token.Shows piece →
      ∃ further, Closes token outer whole further ∧ Yields Holds rest further) :
    Yields Holds (piece :: rest) ⟨opened, .complete last⟩ := by
  apply yields_cons
  intro token shows
  rcases closes token shows with ⟨further, closes, onward⟩
  refine ⟨further, .complete (.closing ?_), onward⟩
  rw [closed]
  exact closes

theorem Yields.resize
    {larger : Nat}
    (yields : Yields (Reads rank frames tree size) pieces progress)
    (within : size ≤ larger) :
    Yields (Reads rank frames tree larger) pieces progress := by
  apply yields.mono
  rintro further ⟨whole, opened, last, point, means, stands⟩
  exact ⟨whole, opened, last, point, means.mono within, stands⟩

theorem Yields.lower
    {lower : Nat}
    (yields : Yields (Reads rank frames tree size) pieces progress)
    (within : lower ≤ rank) :
    Yields (Reads lower frames tree size) pieces progress :=
  yields.mono fun _ reads => reads.mono within

theorem reads_single
    (alone : ∀ token : Token, token.Shows piece →
      ∃ operand, token.operand? = some operand ∧ Means 1 tree operand) :
    Yields (Reads rank frames tree 1) [piece] ⟨frames, .operand⟩ := by
  apply yields_cons
  intro token shows
  rcases alone token shows with ⟨operand, alone, means⟩
  exact ⟨_, .operand (.single alone), reads_complete means⟩

theorem Token.Shows.text_eq
    {token : Token}
    {name : String}
    (shows : token.Shows piece)
    (lexeme : piece.lexeme = name.toList) :
    token.text = name := by
  rw [Token.text, shows.2, lexeme, String.ofList_toList]

theorem Token.Shows.operand?_name
    {token : Token}
    {name : String}
    {named : IsName name}
    (shows : token.Shows (.name name named)) :
    token.operand? = some (.leaf (.name token.span name)) := by
  have text : token.text = name := shows.text_eq rfl
  rw [Token.operand?, shows.1, text]
  rfl

theorem Token.Shows.unary?
    {token : Token}
    {operator : UnaryOperator}
    (shows : token.Shows (.unary operator)) :
    token.unary? = some operator := by
  rw [Token.unary?, shows.1]
  cases operator <;> rfl

theorem ofSymbol?_symbol (operator : BinaryOperator) :
    BinaryOperator.ofSymbol? operator.symbol = some operator := by
  cases operator <;> decide

theorem Token.Shows.binary?
    {token : Token}
    {operator : BinaryOperator}
    (shows : token.Shows (.binary operator)) :
    token.binary? = some operator := by
  have text : token.text = operator.symbol := shows.text_eq rfl
  rw [Token.binary?, shows.1, text, ofSymbol?_symbol]
  cases operator <;> rfl

/-! ## Parentheses and operators -/

theorem reads_grouped
    (inner : Yields (Reads 0 (.group :: frames) tree size) pieces ⟨.group :: frames, .operand⟩) :
    Yields (Reads rank frames tree (size + 2))
      (.fixed .openParen "(" (by decide) :: (pieces ++ [.fixed .closeParen ")" (by decide)]))
      ⟨frames, .operand⟩ := by
  apply yields_cons
  intro token shows
  refine ⟨_, .operand (.group shows.1), inner.andThen ?_⟩
  rintro _ ⟨whole, opened, last, rfl, means, stands⟩
  apply yields_closing stands.closes
  intro token shows
  exact ⟨_, .group shows.1, reads_complete (means.parenthesised.mono (Nat.le_succ _))⟩

theorem reads_unary
    {span : Span}
    {operator : UnaryOperator}
    (operand : ∀ column, Yields (Reads unaryRank (.unary operator column :: frames) tree size)
      pieces ⟨.unary operator column :: frames, .operand⟩) :
    Yields (Reads unaryRank frames (.unary span operator tree) (size + 1))
      (.unary operator :: pieces) ⟨frames, .operand⟩ := by
  apply yields_cons
  intro token shows
  refine ⟨_, .operand (.unary shows.unary?), (operand token.span.first).mono ?_⟩
  rintro _ ⟨whole, opened, last, rfl, means, stands⟩
  exact ⟨_, opened, last, rfl, means.unary token.span.first, stands.unary⟩

theorem reads_binary
    {span : Span}
    {operator : BinaryOperator}
    {left right : Expr}
    {leftPieces rightPieces : List Piece}
    {leftSize rightSize : Nat}
    (hosts : Hosts operator.rank frames)
    (leftReads : Yields (Reads operator.leftRank frames left leftSize) leftPieces
      ⟨frames, .operand⟩)
    (rightReads : ∀ operand : Operand,
      Yields (Reads operator.rightRank (.binary operand operator :: frames) right rightSize)
        rightPieces ⟨.binary operand operator :: frames, .operand⟩) :
    Yields (Reads operator.rank frames (.binary span operator left right)
        (leftSize + (rightSize + 1)))
      (leftPieces ++ .binary operator :: rightPieces) ⟨frames, .operand⟩ := by
  apply leftReads.andThen
  rintro _ ⟨operand, opened, last, rfl, leftMeans, leftStands⟩
  apply yields_cons
  intro token shows
  refine ⟨_, .complete (.binary shows.binary?), ?_⟩
  rw [leftStands.fold_eq hosts]
  apply (rightReads operand).mono
  rintro _ ⟨whole, opened, last, rfl, rightMeans, rightStands⟩
  exact ⟨_, opened, last, rfl, leftMeans.binary rightMeans, rightStands.binary⟩

/-! ## What is read from an operand -/

theorem reads_field
    {span : Span}
    {name : String}
    {named : IsName name}
    (target : Yields (Reads postfixRank frames tree size) pieces ⟨frames, .operand⟩) :
    Yields (Reads postfixRank frames (.field span tree name) (size + 2))
      (pieces ++ [.fixed .dot "." (by decide), .name name named]) ⟨frames, .operand⟩ := by
  apply target.andThen
  rintro _ ⟨whole, opened, last, rfl, means, stands⟩
  rcases stands.settled (Nat.le_refl _) with ⟨rfl, rfl⟩
  apply yields_cons
  intro token shows
  refine ⟨_, .complete (.member shows.1), ?_⟩
  apply yields_cons
  intro token shows
  have text : token.text = name := shows.text_eq rfl
  refine ⟨_, .member shows.1, ?_⟩
  rw [text]
  exact reads_complete (means.field name token.span.stop)

theorem reads_index
    {span : Span}
    {key : Expr}
    {keyPieces : List Piece}
    {keySize : Nat}
    (target : Yields (Reads postfixRank frames tree size) pieces ⟨frames, .operand⟩)
    (keyReads : ∀ operand : Operand,
      Yields (Reads 0 (.index operand :: frames) key keySize) keyPieces
        ⟨.index operand :: frames, .operand⟩) :
    Yields (Reads postfixRank frames (.index span tree key) (size + (keySize + 2)))
      (pieces ++ .fixed .openBracket "[" (by decide) ::
        (keyPieces ++ [.fixed .closeBracket "]" (by decide)])) ⟨frames, .operand⟩ := by
  apply target.andThen
  rintro _ ⟨whole, opened, last, rfl, means, stands⟩
  rcases stands.settled (Nat.le_refl _) with ⟨rfl, rfl⟩
  apply yields_cons
  intro token shows
  refine ⟨_, .complete (.index shows.1), (keyReads last).andThen ?_⟩
  rintro _ ⟨inner, opened, innermost, rfl, keyMeans, keyStands⟩
  apply yields_closing keyStands.closes
  intro token shows
  exact ⟨_, .index shows.1, reads_complete (means.index keyMeans token.span.stop)⟩

end LuauNodes.Expression
