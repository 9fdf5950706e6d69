import LuauNodes.Proofs.Expression.Constructs
import Mathlib.Data.List.Forall2

/-!
# Reading lists of parts

The constructs with any number of parts: calls with their arguments, tables with
their fields, and choices with their branches.  The parts that are read wait in
the construct in reverse, so each rule names what was read before.
-/

namespace LuauNodes.Expression

variable {frames opened : List Frame} {whole last : Operand} {size larger : Nat} {tree : Expr}
  {pieces rest : List Piece} {piece : Piece} {progress : Progress} {Holds : Progress → Prop}

/-! ## Calls -/

/-- The point behind a call, of which some arguments were read before. -/
def Calls
    (frames : List Frame)
    (callee : Callee)
    (done : List Operand)
    (arguments : List Expr)
    (size : Nat)
    (progress : Progress) :
    Prop :=
  ∃ operands stop,
    progress = ⟨frames, .complete (callee.call (done ++ operands) stop)⟩ ∧
      List.Forall₂ (Means size) arguments operands

theorem Calls.mono
    {callee : Callee}
    {done : List Operand}
    {arguments : List Expr}
    (calls : Calls frames callee done arguments size progress)
    (within : size ≤ larger) :
    Calls frames callee done arguments larger progress := by
  rcases calls with ⟨operands, stop, point, means⟩
  exact ⟨operands, stop, point, means.imp fun _ _ means => means.mono within⟩

theorem yields_firstArgument
    (nonempty : pieces ≠ [])
    (operand : Yields Holds pieces ⟨frames, .operand⟩) :
    Yields Holds pieces ⟨frames, .firstArgument⟩ := by
  cases pieces with
  | nil => exact absurd rfl nonempty
  | cons piece rest =>
      intro token shows
      rcases operand token shows with ⟨further, stepped, onward⟩
      exact ⟨further, step_of_moves (.firstArgument (begins_of_stepOperand stepped)), onward⟩

theorem calls_none {callee : Callee} :
    Yields (Calls frames callee [] [] size) [.fixed .closeParen ")" (by decide)]
      ⟨.arguments callee [] :: frames, .firstArgument⟩ := by
  apply yields_cons
  intro token shows
  exact ⟨_, .noArgument shows.1, [], token.span.stop, rfl, .nil⟩

theorem calls_done
    {callee : Callee}
    {done : List Operand}
    (closed : close opened last = (.arguments callee done :: frames, whole)) :
    Yields (Calls frames callee (whole :: done).reverse [] size)
      [.fixed .closeParen ")" (by decide)] ⟨opened, .complete last⟩ := by
  apply yields_closing closed
  intro token shows
  refine ⟨_, .lastArgument shows.1, [], token.span.stop, ?_, .nil⟩
  rw [List.append_nil]

/-- An argument, and what is read behind it. -/
theorem calls_cons
    {callee : Callee}
    {done : List Operand}
    {others : List Expr}
    {otherSize : Nat}
    (next : Yields (Reads 0 (.arguments callee done :: frames) tree size) pieces
      ⟨.arguments callee done :: frames, .operand⟩)
    (further : ∀ opened last whole,
      close opened last = (.arguments callee done :: frames, whole) →
        Yields (Calls frames callee (whole :: done).reverse others otherSize) rest
          ⟨opened, .complete last⟩) :
    Yields (Calls frames callee done.reverse (tree :: others) (size + otherSize)) (pieces ++ rest)
      ⟨.arguments callee done :: frames, .operand⟩ := by
  apply next.andThen
  rintro _ ⟨whole, opened, last, rfl, means, stands⟩
  apply (further opened last whole stands.closes).mono
  rintro _ ⟨operands, stop, rfl, othersMean⟩
  refine ⟨whole :: operands, stop, ?_, .cons (means.mono (Nat.le_add_right _ _)) ?_⟩
  · rw [List.reverse_cons, List.append_assoc, List.singleton_append]
  · exact othersMean.imp fun _ _ means => means.mono (Nat.le_add_left _ _)

theorem calls_comma
    {callee : Callee}
    {done : List Operand}
    (closed : close opened last = (.arguments callee done :: frames, whole))
    (next : Yields Holds rest ⟨.arguments callee (whole :: done) :: frames, .operand⟩) :
    Yields Holds (.fixed .comma "," (by decide) :: rest) ⟨opened, .complete last⟩ := by
  apply yields_closing closed
  intro token shows
  exact ⟨_, .nextArgument shows.1, next⟩

theorem reads_call
    {span : Span}
    {arguments : List Expr}
    {argumentSize : Nat}
    (target : Yields (Reads postfixRank frames tree size) pieces ⟨frames, .operand⟩)
    (calls : ∀ operand : Operand,
      Yields (Calls frames (.value operand) [] arguments argumentSize) rest
        ⟨.arguments (.value operand) [] :: frames, .firstArgument⟩) :
    Yields (Reads postfixRank frames (.call span tree arguments) (size + (argumentSize + 2)))
      (pieces ++ .fixed .openParen "(" (by decide) :: rest) ⟨frames, .operand⟩ := by
  apply target.andThen
  rintro _ ⟨whole, opened, last, rfl, means, stands⟩
  rcases stands.settled (Nat.le_refl _) with ⟨rfl, rfl⟩
  apply yields_cons
  intro token shows
  refine ⟨_, .complete (.call shows.1), (calls last).mono ?_⟩
  rintro _ ⟨operands, stop, rfl, argumentsMean⟩
  exact reads_complete (means.call argumentsMean stop)

theorem reads_method
    {span : Span}
    {name : String}
    {named : IsName name}
    {arguments : List Expr}
    {argumentSize : Nat}
    (target : Yields (Reads postfixRank frames tree size) pieces ⟨frames, .operand⟩)
    (calls : ∀ operand : Operand,
      Yields (Calls frames (.method operand name) [] arguments argumentSize) rest
        ⟨.arguments (.method operand name) [] :: frames, .firstArgument⟩) :
    Yields (Reads postfixRank frames (.method span tree name arguments)
        (size + (argumentSize + 2)))
      (pieces ++ .fixed .colon ":" (by decide) :: .name name named ::
        .fixed .openParen "(" (by decide) :: rest)
      ⟨frames, .operand⟩ := by
  apply target.andThen
  rintro _ ⟨whole, opened, last, rfl, means, stands⟩
  rcases stands.settled (Nat.le_refl _) with ⟨rfl, rfl⟩
  apply yields_cons
  intro token shows
  refine ⟨_, .complete (.method shows.1), ?_⟩
  apply yields_cons
  intro token shows
  have text : token.text = name := shows.text_eq rfl
  refine ⟨_, .methodName shows.1, ?_⟩
  rw [text]
  apply yields_cons
  intro token shows
  refine ⟨_, .methodCall shows.1, (calls last).mono ?_⟩
  rintro _ ⟨operands, stop, rfl, argumentsMean⟩
  exact reads_complete (means.method argumentsMean name stop)

/-! ## Tables -/

/-- The point behind the value of a table field. -/
def Enters (frames : List Frame) (field : TableField) (size : Nat) (progress : Progress) : Prop :=
  ∃ entry opened last,
    progress = ⟨opened, .complete last⟩ ∧ MeansField size field entry ∧
      close opened last = (.entry entry.key :: frames, entry.value)

/-- The point behind a table, of which some fields were read before. -/
def Collects
    (frames : List Frame)
    (column : Nat)
    (done : List Entry)
    (fields : List TableField)
    (size : Nat)
    (progress : Progress) :
    Prop :=
  ∃ entries stop,
    progress = ⟨frames, .complete (.table ⟨column, stop⟩ (done ++ entries))⟩ ∧
      List.Forall₂ (MeansField size) fields entries

theorem Enters.mono
    {field : TableField}
    (enters : Enters frames field size progress)
    (within : size ≤ larger) :
    Enters frames field larger progress := by
  rcases enters with ⟨entry, opened, last, point, means, closed⟩
  exact ⟨entry, opened, last, point, means.mono within, closed⟩

theorem Collects.mono
    {column : Nat}
    {done : List Entry}
    {fields : List TableField}
    (collects : Collects frames column done fields size progress)
    (within : size ≤ larger) :
    Collects frames column done fields larger progress := by
  rcases collects with ⟨entries, stop, point, means⟩
  exact ⟨entries, stop, point, means.imp fun _ _ means => means.mono within⟩

/-- A name at the start of a field may still become an operand. -/
theorem yields_fieldName
    {name : String}
    (operand : Yields Holds (piece :: rest) ⟨frames, .complete last⟩) :
    Yields Holds (piece :: rest) ⟨frames, .fieldName last name⟩ := by
  intro token shows
  rcases operand token shows with ⟨further, stepped, onward⟩
  exact ⟨further, step_of_moves (.fieldName (continues_of_stepComplete stepped)), onward⟩

/-- A field begins like the operand that it may be; the token behind that tells them apart. -/
theorem yields_positional
    {next : Piece}
    (nonempty : pieces ≠ [])
    (operand : Yields Holds (pieces ++ next :: rest) ⟨.entry .positional :: frames, .operand⟩) :
    Yields Holds (pieces ++ next :: rest) ⟨frames, .field⟩ := by
  cases pieces with
  | nil => exact absurd rfl nonempty
  | cons piece pieces =>
      intro token shows
      rcases operand token shows with ⟨further, stepped, onward⟩
      -- A name may yet be the name of the field; whatever begins otherwise is an operand.
      by_cases kind : token.terminal = .name
      · have alone : token.operand? = some (.leaf (.name token.span token.text)) := by
          rw [Token.operand?, kind]
        have begins : Begins (.entry .positional :: frames) token _ := .single alone
        have begun := stepOperand_of_begins begins
        rw [Progress.step, begun] at stepped
        cases stepped
        refine ⟨_, step_of_moves (.named kind), ?_⟩
        cases pieces <;> exact yields_fieldName onward
      · exact ⟨further, step_of_moves (.positional kind (begins_of_stepOperand stepped)), onward⟩

theorem enters_positional
    {next : Piece}
    (nonempty : pieces ≠ [])
    (value : Yields (Reads 0 (.entry .positional :: frames) tree size) pieces
      ⟨.entry .positional :: frames, .operand⟩)
    (onward : ∀ between, Enters frames (.positional tree) size between →
      Yields Holds (next :: rest) between) :
    Yields Holds (pieces ++ next :: rest) ⟨frames, .field⟩ := by
  apply yields_positional nonempty
  apply value.andThen
  rintro _ ⟨whole, opened, last, rfl, means, stands⟩
  exact onward _ ⟨⟨.positional, whole⟩, opened, last, rfl, .positional means, stands.closes⟩

theorem enters_named
    {name : String}
    {named : IsName name}
    (value : Yields (Reads 0 (.entry (.named name) :: frames) tree size) pieces
      ⟨.entry (.named name) :: frames, .operand⟩) :
    Yields (Enters frames (.named name tree) size)
      (.name name named :: .fixed .equals "=" (by decide) :: pieces) ⟨frames, .field⟩ := by
  apply yields_cons
  intro token shows
  have text : token.text = name := shows.text_eq rfl
  refine ⟨_, .named shows.1, ?_⟩
  rw [text]
  apply yields_cons
  intro token shows
  refine ⟨_, .nameField shows.1, value.mono ?_⟩
  rintro _ ⟨whole, opened, last, rfl, means, stands⟩
  exact ⟨⟨.named name, whole⟩, opened, last, rfl, .named means, stands.closes⟩

theorem enters_keyed
    {key : Expr}
    {keyPieces : List Piece}
    {keySize : Nat}
    (keyReads : Yields (Reads 0 (.key :: frames) key keySize) keyPieces ⟨.key :: frames, .operand⟩)
    (value : ∀ operand : Operand,
      Yields (Reads 0 (.entry (.keyed operand) :: frames) tree size) pieces
        ⟨.entry (.keyed operand) :: frames, .operand⟩) :
    Yields (Enters frames (.keyed key tree) (keySize + size))
      (.fixed .openBracket "[" (by decide) ::
        (keyPieces ++ .fixed .closeBracket "]" (by decide) :: .fixed .equals "=" (by decide) ::
          pieces))
      ⟨frames, .field⟩ := by
  apply yields_cons
  intro token shows
  refine ⟨_, .keyed shows.1, keyReads.andThen ?_⟩
  rintro _ ⟨inner, opened, innermost, rfl, keyMeans, keyStands⟩
  apply yields_closing keyStands.closes
  intro token shows
  refine ⟨_, .key shows.1, ?_⟩
  apply yields_cons
  intro token shows
  refine ⟨_, .keyValue shows.1, (value inner).mono ?_⟩
  rintro _ ⟨whole, opened, last, rfl, means, stands⟩
  exact ⟨⟨.keyed inner, whole⟩, opened, last, rfl,
    .keyed (keyMeans.mono (Nat.le_add_right _ _)) (means.mono (Nat.le_add_left _ _)),
    stands.closes⟩

theorem collects_none
    {column : Nat}
    {done : List Entry} :
    Yields (Collects frames column done.reverse [] size)
      [.fixed .closeBrace "\x7d" (by decide)] ⟨.table column done :: frames, .field⟩ := by
  apply yields_cons
  intro token shows
  refine ⟨_, .noField shows.1, [], token.span.stop, ?_, .nil⟩
  rw [List.append_nil]

/-- The last field before the closing brace. -/
theorem collects_last
    {column : Nat}
    {done : List Entry}
    {field : TableField}
    (enters : Enters (.table column done :: frames) field size progress) :
    Yields (Collects frames column done.reverse [field] size)
      [.fixed .closeBrace "\x7d" (by decide)] progress := by
  rcases enters with ⟨entry, opened, last, rfl, means, closed⟩
  apply yields_closing closed
  intro token shows
  refine ⟨_, .lastField shows.1, [entry], token.span.stop, ?_, .cons means .nil⟩
  rw [List.reverse_cons]

/-- A field with a separator behind it, and what is read behind that. -/
theorem collects_more
    {column : Nat}
    {done : List Entry}
    {field : TableField}
    {others : List TableField}
    {otherSize : Nat}
    (separating : piece.terminal = .comma ∨ piece.terminal = .semicolon)
    (enters : Enters (.table column done :: frames) field size progress)
    (further : ∀ entry : Entry,
      Yields (Collects frames column (entry :: done).reverse others otherSize) rest
        ⟨.table column (entry :: done) :: frames, .field⟩) :
    Yields (Collects frames column done.reverse (field :: others) (size + otherSize))
      (piece :: rest) progress := by
  rcases enters with ⟨entry, opened, last, rfl, means, closed⟩
  apply yields_closing closed
  intro token shows
  rw [← shows.1] at separating
  refine ⟨_, .nextField separating, (further entry).mono ?_⟩
  rintro _ ⟨entries, stop, rfl, othersMean⟩
  refine ⟨entry :: entries, stop, ?_, .cons (means.mono (Nat.le_add_right _ _)) ?_⟩
  · rw [List.reverse_cons, List.append_assoc, List.singleton_append]
  · exact othersMean.imp fun _ _ means => means.mono (Nat.le_add_left _ _)

theorem reads_table
    {rank : Nat}
    {span : Span}
    {fields : List TableField}
    (collects : ∀ column, Yields (Collects frames column [] fields size) rest
      ⟨.table column [] :: frames, .field⟩) :
    Yields (Reads rank frames (.table span fields) (size + 2))
      (.fixed .openBrace "\x7b" (by decide) :: rest) ⟨frames, .operand⟩ := by
  apply yields_cons
  intro token shows
  refine ⟨_, .operand (.table shows.1), (collects token.span.first).mono ?_⟩
  rintro _ ⟨entries, stop, rfl, means⟩
  exact reads_complete (means_table means ⟨token.span.first, stop⟩)

/-! ## Choices -/

/-- The point behind a condition and the value chosen where it holds. -/
def Decides
    (frames : List Frame)
    (column : Nat)
    (done : List (Operand × Operand))
    (branch : Branch)
    (size : Nat)
    (progress : Progress) :
    Prop :=
  ∃ operands opened last,
    progress = ⟨opened, .complete last⟩ ∧ MeansBranch size branch operands ∧
      close opened last = (.consequence column done operands.1 :: frames, operands.2)

/-- The point where the value that is left begins, with the branches before it. -/
def Chooses
    (frames : List Frame)
    (column : Nat)
    (done : List (Operand × Operand))
    (branches : List Branch)
    (size : Nat)
    (progress : Progress) :
    Prop :=
  ∃ operands,
    progress = ⟨.otherwise column (done.reverse ++ operands).reverse :: frames, .operand⟩ ∧
      List.Forall₂ (MeansBranch size) branches operands

theorem Decides.mono
    {column : Nat}
    {done : List (Operand × Operand)}
    {branch : Branch}
    (decides : Decides frames column done branch size progress)
    (within : size ≤ larger) :
    Decides frames column done branch larger progress := by
  rcases decides with ⟨operands, opened, last, point, means, closed⟩
  exact ⟨operands, opened, last, point, means.mono within, closed⟩

theorem Chooses.mono
    {column : Nat}
    {done : List (Operand × Operand)}
    {branches : List Branch}
    (chooses : Chooses frames column done branches size progress)
    (within : size ≤ larger) :
    Chooses frames column done branches larger progress := by
  rcases chooses with ⟨operands, point, means⟩
  exact ⟨operands, point, means.imp fun _ _ means => means.mono within⟩

theorem decides_branch
    {column : Nat}
    {done : List (Operand × Operand)}
    {condition : Expr}
    {conditionPieces : List Piece}
    {conditionSize : Nat}
    (conditionReads : Yields (Reads 0 (.condition column done :: frames) condition conditionSize)
      conditionPieces ⟨.condition column done :: frames, .operand⟩)
    (value : ∀ operand : Operand,
      Yields (Reads 0 (.consequence column done operand :: frames) tree size) pieces
        ⟨.consequence column done operand :: frames, .operand⟩) :
    Yields (Decides frames column done (.mk condition tree) (conditionSize + size))
      (conditionPieces ++ .fixed .thenWord "then" (by decide) :: pieces)
      ⟨.condition column done :: frames, .operand⟩ := by
  apply conditionReads.andThen
  rintro _ ⟨inner, opened, innermost, rfl, conditionMeans, conditionStands⟩
  apply yields_closing conditionStands.closes
  intro token shows
  refine ⟨_, .condition shows.1, (value inner).mono ?_⟩
  rintro _ ⟨whole, opened, last, rfl, means, stands⟩
  exact ⟨(inner, whole), opened, last, rfl,
    .mk (conditionMeans.mono (Nat.le_add_right _ _)) (means.mono (Nat.le_add_left _ _)),
    stands.closes⟩

theorem chooses_last
    {column : Nat}
    {done : List (Operand × Operand)}
    {branch : Branch}
    (decides : Decides frames column done branch size progress) :
    Yields (Chooses frames column done [branch] size) [.fixed .elseWord "else" (by decide)]
      progress := by
  rcases decides with ⟨operands, opened, last, rfl, means, closed⟩
  apply yields_closing closed
  intro token shows
  refine ⟨_, .otherwise shows.1, [operands], ?_, .cons means .nil⟩
  rw [List.reverse_append, List.reverse_reverse]
  rfl

theorem chooses_more
    {column : Nat}
    {done : List (Operand × Operand)}
    {branch : Branch}
    {others : List Branch}
    {otherSize : Nat}
    (decides : Decides frames column done branch size progress)
    (further : ∀ operands : Operand × Operand,
      Yields (Chooses frames column (operands :: done) others otherSize) rest
        ⟨.condition column (operands :: done) :: frames, .operand⟩) :
    Yields (Chooses frames column done (branch :: others) (size + otherSize))
      (.fixed .elseifWord "elseif" (by decide) :: rest) progress := by
  rcases decides with ⟨operands, opened, last, rfl, means, closed⟩
  apply yields_closing closed
  intro token shows
  refine ⟨_, .nextBranch shows.1, (further operands).mono ?_⟩
  rintro _ ⟨more, rfl, othersMean⟩
  refine ⟨operands :: more, ?_, .cons (means.mono (Nat.le_add_right _ _)) ?_⟩
  · rw [List.reverse_cons, List.append_assoc, List.singleton_append]
  · exact othersMean.imp fun _ _ means => means.mono (Nat.le_add_left _ _)

theorem reads_choice
    {span : Span}
    {branches : List Branch}
    {otherwise : Expr}
    {otherwiseSize : Nat}
    {otherwisePieces : List Piece}
    (admitted : admitsChoice frames = true)
    (chooses : ∀ column, Yields (Chooses frames column [] branches size) pieces
      ⟨.condition column [] :: frames, .operand⟩)
    (otherwiseReads : ∀ column done,
      Yields (Reads 0 (.otherwise column done :: frames) otherwise otherwiseSize) otherwisePieces
        ⟨.otherwise column done :: frames, .operand⟩) :
    Yields (Reads 0 frames (.choice span branches otherwise) (size + otherwiseSize + 1))
      (.fixed .ifWord "if" (by decide) :: (pieces ++ otherwisePieces)) ⟨frames, .operand⟩ := by
  apply yields_cons
  intro token shows
  refine ⟨_, .operand (.choice shows.1 admitted), (chooses token.span.first).andThen ?_⟩
  rintro _ ⟨operands, rfl, means⟩
  apply (otherwiseReads token.span.first _).mono
  rintro _ ⟨whole, opened, last, rfl, otherwiseMeans, stands⟩
  have chosen := stands.choice
  rw [List.reverse_reverse, List.reverse_nil, List.nil_append] at chosen
  refine ⟨_, opened, last, rfl, ?_, chosen⟩
  exact means_choice (means.imp fun _ _ means => means.mono (Nat.le_add_right _ _))
    (otherwiseMeans.mono (Nat.le_add_left _ _)) token.span.first

end LuauNodes.Expression
