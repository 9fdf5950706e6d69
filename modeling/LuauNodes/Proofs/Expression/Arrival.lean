import LuauNodes.Proofs.Expression.Levels

/-!
# Tokens that are read as operands

Where an operand, an argument or a table field may stand, and that some tokens
are read as it there.  Nothing is assumed of the constructs around it, so what
is read as an operand is read as the same operand inside any other construct.
-/

namespace LuauNodes.Expression

variable {frames opened outer : List Frame} {whole left last : Operand} {rank : Nat}
variable {token : Token} {tokens front back : List Token}
variable {progress further : Progress} {Holds Middle : Progress → Prop}

/-! ## Tokens in turn -/

/-- Some tokens are read one after the other, and a property holds behind the last one. -/
def Arrives (Holds : Progress → Prop) (tokens : List Token) (progress : Progress) : Prop :=
  ∃ further, tokens.foldlM Progress.step progress = some further ∧ Holds further

theorem arrives_nil (holds : Holds progress) : Arrives Holds [] progress :=
  ⟨progress, rfl, holds⟩

theorem arrives_cons
    (moves : Moves token progress further)
    (arrives : Arrives Holds tokens further) :
    Arrives Holds (token :: tokens) progress := by
  obtain ⟨final, reads, holds⟩ := arrives
  refine ⟨final, ?_, holds⟩
  rw [List.foldlM_cons, step_of_moves moves]
  exact reads

theorem Arrives.andThen
    (arrives : Arrives Middle front progress)
    (onward : ∀ between, Middle between → Arrives Holds back between) :
    Arrives Holds (front ++ back) progress := by
  obtain ⟨between, frontReads, middle⟩ := arrives
  obtain ⟨final, backReads, holds⟩ := onward between middle
  refine ⟨final, ?_, holds⟩
  rw [List.foldlM_append, frontReads]
  exact backReads

theorem Arrives.mono
    (arrives : Arrives Middle tokens progress)
    (implies : ∀ between, Middle between → Holds between) :
    Arrives Holds tokens progress := by
  obtain ⟨final, reads, middle⟩ := arrives
  exact ⟨final, reads, implies final middle⟩

theorem Arrives.of_cons (arrives : Arrives Holds (token :: tokens) progress) :
    ∃ between, Moves token progress between ∧ Arrives Holds tokens between := by
  obtain ⟨final, reads, holds⟩ := arrives
  rw [List.foldlM_cons] at reads
  obtain ⟨between, stepped, others⟩ := Option.bind_eq_some_iff.mp reads
  exact ⟨between, moves_of_step stepped, final, others, holds⟩

/-- A token that closes the innermost construct with the operand that stands above it. -/
theorem arrives_closing
    (closed : close opened last = (outer, whole))
    (closes : Closes token outer whole further)
    (arrives : Arrives Holds tokens further) :
    Arrives Holds (token :: tokens) ⟨opened, .complete last⟩ := by
  refine arrives_cons (.complete (.closing ?_)) arrives
  rw [closed]
  exact closes

/-! ## Operands -/

/-- The point behind an operand that stands above a stack. -/
def Completed (rank : Nat) (frames : List Frame) (whole : Operand) (progress : Progress) : Prop :=
  ∃ opened last, progress = ⟨opened, .complete last⟩ ∧ Stands rank frames whole opened last

/-- Wherever an operand of the level may stand, the tokens are read as the operand. -/
def ReadAsOperand (rank : Nat) (tokens : List Token) (whole : Operand) : Prop :=
  ∀ frames, Hosts rank frames → Arrives (Completed rank frames whole) tokens ⟨frames, .operand⟩

theorem completed_refl : Completed rank frames whole ⟨frames, .complete whole⟩ :=
  ⟨frames, whole, rfl, stands_refl⟩

theorem ReadAsOperand.mono
    {lower : Nat}
    (reads : ReadAsOperand rank tokens whole)
    (within : lower ≤ rank) :
    ReadAsOperand lower tokens whole := by
  intro frames hosts
  refine (reads frames (hosts.mono within)).mono ?_
  rintro _ ⟨opened, last, rfl, stands⟩
  exact ⟨opened, last, rfl, stands.mono within⟩

/-- An operand inside a construct, with the token that closes the construct. -/
theorem ReadAsOperand.arrives_closing
    (reads : ReadAsOperand 0 tokens whole)
    (admitted : admitsChoice frames = true)
    (waiting : close frames whole = (frames, whole))
    (closes : Closes token frames whole further)
    (arrives : Arrives Holds back further) :
    Arrives Holds (tokens ++ token :: back) ⟨frames, .operand⟩ := by
  refine (reads frames (hosts_of_admitsChoice admitted)).andThen ?_
  rintro _ ⟨opened, last, rfl, stands⟩
  exact Expression.arrives_closing (stands.closes.trans waiting) closes arrives

theorem readAsOperand_single (alone : token.operand? = some whole) :
    ReadAsOperand rank [token] whole := fun _ _ =>
  arrives_cons (.operand (.single alone)) (arrives_nil completed_refl)

theorem readAsOperand_group
    {opening closing : Token}
    (opens : opening.terminal = .openParen)
    (reads : ReadAsOperand 0 tokens whole)
    (closes : closing.terminal = .closeParen) :
    ReadAsOperand rank (opening :: (tokens ++ [closing])) whole.parenthesised := by
  intro frames _
  refine arrives_cons (.operand (.group opens)) ?_
  exact reads.arrives_closing rfl rfl (.group closes) (arrives_nil completed_refl)

theorem readAsOperand_unary
    {operator : UnaryOperator}
    (leading : token.unary? = some operator)
    (reads : ReadAsOperand unaryRank tokens whole) :
    ReadAsOperand unaryRank (token :: tokens) (.unary operator token.span.first whole) := by
  intro frames _
  refine arrives_cons (.operand (.unary leading)) ?_
  refine (reads _ (hosts_unary operator token.span.first)).mono ?_
  rintro _ ⟨opened, last, rfl, stands⟩
  exact ⟨opened, last, rfl, stands.unary⟩

/-- An operator and its right operand, behind a left operand that stands above a stack. -/
theorem arrives_binary
    {operator : BinaryOperator}
    {right : Operand}
    (hosts : Hosts operator.rank frames)
    (stands : Stands operator.leftRank frames left opened last)
    (between : token.binary? = some operator)
    (reads : ReadAsOperand operator.rightRank tokens right) :
    Arrives (Completed operator.rank frames (.binary operator left right)) (token :: tokens)
      ⟨opened, .complete last⟩ := by
  refine arrives_cons (.complete (.binary between)) ?_
  rw [stands.fold_eq hosts]
  refine (reads _ (hosts_binary left operator)).mono ?_
  rintro _ ⟨opened, last, rfl, stands⟩
  exact ⟨opened, last, rfl, stands.binary⟩

/-- What is read from or called on leaves nothing waiting. -/
theorem ReadAsOperand.arrives_target
    (reads : ReadAsOperand postfixRank tokens whole)
    (hosts : Hosts postfixRank frames) :
    Arrives (· = ⟨frames, .complete whole⟩) tokens ⟨frames, .operand⟩ := by
  refine (reads frames hosts).mono ?_
  rintro _ ⟨opened, last, rfl, stands⟩
  obtain ⟨rfl, rfl⟩ := stands.settled (Nat.le_refl _)
  rfl

/-! ## Arguments -/

/-- The point behind an argument, with all arguments so far. -/
def Calling (frames : List Frame) (callee : Callee) (operands : List Operand)
    (progress : Progress) : Prop :=
  ∃ opened last done whole, progress = ⟨opened, .complete last⟩ ∧
    close opened last = (.arguments callee done :: frames, whole) ∧
      (whole :: done).reverse = operands

/-- Wherever a call is open, the tokens are read as its arguments. -/
def ReadAsArguments (tokens : List Token) (operands : List Operand) : Prop :=
  ∀ frames callee, Arrives (Calling frames callee operands) tokens
    ⟨.arguments callee [] :: frames, .firstArgument⟩

/-! ## Table fields -/

/-- An operand is complete, though it may yet be the name of a field. -/
def Offers (opened : List Frame) (last : Operand) (progress : Progress) : Prop :=
  progress = ⟨opened, .complete last⟩ ∨ ∃ name, progress = ⟨opened, .fieldName last name⟩

/-- The point behind the value of a table field. -/
def Entering (frames : List Frame) (entry : Entry) (progress : Progress) : Prop :=
  ∃ opened last, Offers opened last progress ∧
    close opened last = (.entry entry.key :: frames, entry.value)

/-- Wherever a field begins, the tokens are read as the field. -/
def ReadAsEntry (tokens : List Token) (entry : Entry) : Prop :=
  ∀ frames, Arrives (Entering frames entry) tokens ⟨frames, .field⟩

end LuauNodes.Expression
