import LuauNodes.Proofs.Expression.Meaning
import LuauNodes.Proofs.Expression.Tokens

/-!
# Levels on the stack

When an operand may be read above a stack without being drawn into the operators
that wait there, and what of an operand that has been read may still wait.  An
operand is read as a whole even where operators of it remain on the stack: every
token that completes the ones below completes these first.
-/

namespace LuauNodes.Expression

variable {frames opened : List Frame} {whole last : Operand} {rank : Nat}

/-- No operator of the level or above completes what waits on the stack, and any expression may
stand there if no level is asked for. -/
structure Hosts (rank : Nat) (frames : List Frame) : Prop where
  keeps : ∀ (operator : BinaryOperator) (operand : Operand), rank ≤ operator.rank →
    fold operator.foldLevel frames operand = (frames, operand)
  admits : rank = 0 → admitsChoice frames = true

/-- What waits above a stack together with the last operand is one whole operand to everything
that completes it. -/
structure Stands
    (rank : Nat)
    (frames : List Frame)
    (whole : Operand)
    (opened : List Frame)
    (last : Operand) :
    Prop where
  closes : close opened last = close frames whole
  folds : ∀ level, 0 < level → level ≤ rank → level ≤ unaryRank →
    fold level opened last = fold level frames whole
  settled : postfixRank ≤ rank → opened = frames ∧ last = whole

/-- The point behind an operand that is read above a stack. -/
def Reads (rank : Nat) (frames : List Frame) (tree : Expr) (size : Nat) (progress : Progress) :
    Prop :=
  ∃ whole opened last,
    progress = ⟨opened, .complete last⟩ ∧ Means size tree whole ∧
      Stands rank frames whole opened last

/-! ## Stacks that host operands -/

theorem Hosts.mono
    {higher : Nat}
    (hosts : Hosts rank frames)
    (within : rank ≤ higher) :
    Hosts higher frames where
  keeps operator operand reached := hosts.keeps operator operand (within.trans reached)
  admits bottom := hosts.admits (by omega)

/-- A stack with no operator on top hosts every operand. -/
theorem hosts_of_admitsChoice
    (admitted : admitsChoice frames = true) :
    Hosts rank frames where
  keeps := by
    intro operator operand _
    cases frames with
    | nil => rfl
    | cons frame outer => cases frame <;> first | rfl | cases admitted
  admits _ := admitted

theorem foldLevel_eq (operator : BinaryOperator) :
    operator.foldLevel = if operator = .power then 9 else operator.rank := by
  cases operator <;> rfl

theorem level_eq_rank (operator : BinaryOperator) : operator.level = operator.rank := by
  cases operator <;> rfl

theorem rank_pos (operator : BinaryOperator) : 0 < operator.rank := by
  cases operator <;> decide

theorem rank_le_leftRank (operator : BinaryOperator) : operator.rank ≤ operator.leftRank := by
  cases operator <;> decide

theorem rank_lt_unaryRank
    {operator : BinaryOperator}
    (apart : operator ≠ .power) :
    operator.rank < unaryRank := by
  cases operator <;> first | exact absurd rfl apart | decide

/-- Operators other than the power group to the left. -/
theorem leftRank_eq
    {operator : BinaryOperator}
    (apart : operator ≠ .power) :
    operator.leftRank = operator.rank := by
  cases operator <;> first | exact absurd rfl apart | rfl

theorem rightRank_eq
    {operator : BinaryOperator}
    (apart : operator ≠ .power) :
    operator.rightRank = operator.rank + 1 := by
  cases operator <;> first | exact absurd rfl apart | rfl

theorem eq_power_of_unaryRank_le
    {operator : BinaryOperator}
    (reached : unaryRank ≤ operator.rank) :
    operator = .power := by
  by_contra apart
  have low := rank_lt_unaryRank apart
  omega

theorem hosts_unary
    (operator : UnaryOperator)
    (column : Nat) :
    Hosts unaryRank (.unary operator column :: frames) where
  keeps := by
    intro incoming operand reached
    rw [eq_power_of_unaryRank_le reached]
    rfl
  admits bottom := by cases bottom

theorem hosts_binary
    (left : Operand)
    (operator : BinaryOperator) :
    Hosts operator.rightRank (.binary left operator :: frames) where
  keeps := by
    intro incoming operand reached
    -- A further power waits above the first one; on the other levels only a higher one waits.
    have apart : ¬ incoming.foldLevel ≤ operator.level := by
      rw [foldLevel_eq, level_eq_rank]
      by_cases power : operator = .power
      · rw [power] at reached
        rw [eq_power_of_unaryRank_le reached, power]
        decide
      · have below := rightRank_eq power
        have low := rank_lt_unaryRank power
        rw [unaryRank] at low
        split <;> omega
    rw [fold, if_neg apart]
  admits bottom := by
    rw [BinaryOperator.rightRank.eq_def] at bottom
    split at bottom <;> cases bottom

/-! ## Operands that wait above a stack -/

theorem Stands.mono
    {lower : Nat}
    (stands : Stands rank frames whole opened last)
    (within : lower ≤ rank) :
    Stands lower frames whole opened last where
  closes := stands.closes
  folds level positive reached := stands.folds level positive (reached.trans within)
  settled reached := stands.settled (reached.trans within)

theorem stands_refl : Stands rank frames whole frames whole where
  closes := rfl
  folds _ _ _ _ := rfl
  settled _ := ⟨rfl, rfl⟩

/-- An operator takes a whole operand that stands on its left. -/
theorem Stands.fold_eq
    {operator : BinaryOperator}
    (stands : Stands operator.leftRank frames whole opened last)
    (hosts : Hosts operator.rank frames) :
    fold operator.foldLevel opened last = (frames, whole) := by
  -- The base of a power has nothing waiting; other operators complete what waits on their level.
  by_cases power : operator = .power
  · rcases stands.settled (by rw [power]; decide) with ⟨rfl, rfl⟩
    exact hosts.keeps operator last (Nat.le_refl _)
  · have left := leftRank_eq power
    have level : operator.foldLevel = operator.rank := by rw [foldLevel_eq, if_neg power]
    have kept := hosts.keeps operator whole (Nat.le_refl _)
    rw [level] at kept ⊢
    rw [stands.folds operator.rank (rank_pos operator) left.ge (rank_lt_unaryRank power).le, kept]

theorem Stands.unary
    {operator : UnaryOperator}
    {column : Nat}
    (stands : Stands unaryRank (.unary operator column :: frames) whole opened last) :
    Stands unaryRank frames (.unary operator column whole) opened last where
  closes := stands.closes
  folds level positive reached within := by
    have completes : level ≤ unaryLevel := within
    rw [stands.folds level positive reached within, fold, if_pos completes]
  settled reached := absurd reached (by decide)

theorem Stands.binary
    {left : Operand}
    {operator : BinaryOperator}
    (stands : Stands operator.rightRank (.binary left operator :: frames) whole opened last) :
    Stands operator.rank frames (.binary operator left whole) opened last where
  closes := stands.closes
  folds level positive reached within := by
    have right : level ≤ operator.rightRank := by
      rw [BinaryOperator.rightRank.eq_def]
      split
      · exact within
      · omega
    rw [stands.folds level positive right within, fold, if_pos (level_eq_rank operator ▸ reached)]
  settled reached := absurd reached (by cases operator <;> decide)

theorem Stands.choice
    {column : Nat}
    {done : List (Operand × Operand)}
    (stands : Stands 0 (.otherwise column done :: frames) whole opened last) :
    Stands 0 frames (.choice column done.reverse whole) opened last where
  closes := stands.closes
  folds level positive reached := by omega
  settled reached := absurd reached (by decide)

theorem Reads.mono
    {lower : Nat}
    {tree : Expr}
    {size : Nat}
    {progress : Progress}
    (reads : Reads rank frames tree size progress)
    (within : lower ≤ rank) :
    Reads lower frames tree size progress := by
  rcases reads with ⟨whole, opened, last, point, means, stands⟩
  exact ⟨whole, opened, last, point, means, stands.mono within⟩

/-- An operand that is complete at once stands in every place. -/
theorem reads_complete
    {tree : Expr}
    {size : Nat}
    (means : Means size tree whole) :
    Reads rank frames tree size ⟨frames, .complete whole⟩ :=
  ⟨whole, frames, whole, rfl, means, stands_refl⟩

end LuauNodes.Expression
