import LuauNodes.Proofs.Expression.Pieces

/-!
# What a token does

Every way in which a token continues the reading, by the phase that it is met
in; a token fits exactly if it goes on in one of these ways.  From it follows
that a token that fits is of an expected kind, so the reader, which looks for
expected kinds only, passes over nothing that fits.
-/

namespace LuauNodes.Expression

variable {frames : List Frame} {operand : Operand} {token : Token} {progress further : Progress}

/-- How a token begins an operand. -/
inductive Begins (frames : List Frame) (token : Token) : Progress → Prop where
  | single {operand : Operand} (alone : token.operand? = some operand) :
      Begins frames token ⟨frames, .complete operand⟩
  | unary {operator : UnaryOperator} (leading : token.unary? = some operator) :
      Begins frames token ⟨.unary operator token.span.first :: frames, .operand⟩
  | group (kind : token.terminal = .openParen) :
      Begins frames token ⟨.group :: frames, .operand⟩
  | table (kind : token.terminal = .openBrace) :
      Begins frames token ⟨.table token.span.first [] :: frames, .field⟩
  | choice (kind : token.terminal = .ifWord) (admitted : admitsChoice frames = true) :
      Begins frames token ⟨.condition token.span.first [] :: frames, .operand⟩

/-- How a token closes the innermost construct that wants one. -/
inductive Closes (token : Token) : List Frame → Operand → Progress → Prop where
  | group {outer : List Frame} {inner : Operand} (kind : token.terminal = .closeParen) :
      Closes token (.group :: outer) inner ⟨outer, .complete inner.parenthesised⟩
  | index {outer : List Frame} {target key : Operand} (kind : token.terminal = .closeBracket) :
      Closes token (.index target :: outer) key
        ⟨outer, .complete (.index target key token.span.stop)⟩
  | key {outer : List Frame} {key : Operand} (kind : token.terminal = .closeBracket) :
      Closes token (.key :: outer) key ⟨outer, .keyValue key⟩
  | nextArgument
      {outer : List Frame}
      {callee : Callee}
      {done : List Operand}
      {argument : Operand}
      (kind : token.terminal = .comma) :
      Closes token (.arguments callee done :: outer) argument
        ⟨.arguments callee (argument :: done) :: outer, .operand⟩
  | lastArgument
      {outer : List Frame}
      {callee : Callee}
      {done : List Operand}
      {argument : Operand}
      (kind : token.terminal = .closeParen) :
      Closes token (.arguments callee done :: outer) argument
        ⟨outer, .complete (callee.call (argument :: done).reverse token.span.stop)⟩
  | nextField
      {outer : List Frame}
      {key : EntryKey}
      {column : Nat}
      {done : List Entry}
      {value : Operand}
      (kind : token.terminal = .comma ∨ token.terminal = .semicolon) :
      Closes token (.entry key :: .table column done :: outer) value
        ⟨.table column (.mk key value :: done) :: outer, .field⟩
  | lastField
      {outer : List Frame}
      {key : EntryKey}
      {column : Nat}
      {done : List Entry}
      {value : Operand}
      (kind : token.terminal = .closeBrace) :
      Closes token (.entry key :: .table column done :: outer) value
        ⟨outer, .complete (.table ⟨column, token.span.stop⟩ (Entry.mk key value :: done).reverse)⟩
  | condition
      {outer : List Frame}
      {column : Nat}
      {done : List (Operand × Operand)}
      {condition : Operand}
      (kind : token.terminal = .thenWord) :
      Closes token (.condition column done :: outer) condition
        ⟨.consequence column done condition :: outer, .operand⟩
  | nextBranch
      {outer : List Frame}
      {column : Nat}
      {done : List (Operand × Operand)}
      {condition value : Operand}
      (kind : token.terminal = .elseifWord) :
      Closes token (.consequence column done condition :: outer) value
        ⟨.condition column ((condition, value) :: done) :: outer, .operand⟩
  | otherwise
      {outer : List Frame}
      {column : Nat}
      {done : List (Operand × Operand)}
      {condition value : Operand}
      (kind : token.terminal = .elseWord) :
      Closes token (.consequence column done condition :: outer) value
        ⟨.otherwise column ((condition, value) :: done) :: outer, .operand⟩

/-- How a token goes on after a complete operand. -/
inductive Continues (frames : List Frame) (operand : Operand) (token : Token) :
    Progress → Prop where
  | member (kind : token.terminal = .dot) :
      Continues frames operand token ⟨frames, .member operand⟩
  | method (kind : token.terminal = .colon) :
      Continues frames operand token ⟨frames, .methodName operand⟩
  | index (kind : token.terminal = .openBracket) :
      Continues frames operand token ⟨.index operand :: frames, .operand⟩
  | call (kind : token.terminal = .openParen) :
      Continues frames operand token ⟨.arguments (.value operand) [] :: frames, .firstArgument⟩
  | binary {operator : BinaryOperator} (between : token.binary? = some operator) :
      Continues frames operand token
        ⟨.binary (fold operator.foldLevel frames operand).2 operator ::
          (fold operator.foldLevel frames operand).1, .operand⟩
  | closing
      {further : Progress}
      (closes : Closes token (close frames operand).1 (close frames operand).2 further) :
      Continues frames operand token further

/-- How a token goes on in any phase. -/
inductive Moves (token : Token) : Progress → Progress → Prop where
  | operand {frames : List Frame} {further : Progress} (begins : Begins frames token further) :
      Moves token ⟨frames, .operand⟩ further
  | firstArgument {frames : List Frame} {further : Progress}
      (begins : Begins frames token further) :
      Moves token ⟨frames, .firstArgument⟩ further
  | noArgument
      {outer : List Frame}
      {callee : Callee}
      {done : List Operand}
      (kind : token.terminal = .closeParen) :
      Moves token ⟨.arguments callee done :: outer, .firstArgument⟩
        ⟨outer, .complete (callee.call done.reverse token.span.stop)⟩
  | noField
      {outer : List Frame}
      {column : Nat}
      {done : List Entry}
      (kind : token.terminal = .closeBrace) :
      Moves token ⟨.table column done :: outer, .field⟩
        ⟨outer, .complete (.table ⟨column, token.span.stop⟩ done.reverse)⟩
  | keyed {frames : List Frame} (kind : token.terminal = .openBracket) :
      Moves token ⟨frames, .field⟩ ⟨.key :: frames, .operand⟩
  | named {frames : List Frame} (kind : token.terminal = .name) :
      Moves token ⟨frames, .field⟩
        ⟨.entry .positional :: frames,
          .fieldName (.leaf (.name token.span token.text)) token.text⟩
  | positional {frames : List Frame} {further : Progress}
      (nameless : token.terminal ≠ .name)
      (begins : Begins (.entry .positional :: frames) token further) :
      Moves token ⟨frames, .field⟩ further
  | complete {frames : List Frame} {operand : Operand} {further : Progress}
      (continues : Continues frames operand token further) :
      Moves token ⟨frames, .complete operand⟩ further
  | fieldName {frames : List Frame} {operand : Operand} {name : String} {further : Progress}
      (continues : Continues frames operand token further) :
      Moves token ⟨frames, .fieldName operand name⟩ further
  | nameField
      {outer : List Frame}
      {key : EntryKey}
      {operand : Operand}
      {name : String}
      (kind : token.terminal = .equals) :
      Moves token ⟨.entry key :: outer, .fieldName operand name⟩
        ⟨.entry (.named name) :: outer, .operand⟩
  | member {frames : List Frame} {target : Operand} (kind : token.terminal = .name) :
      Moves token ⟨frames, .member target⟩
        ⟨frames, .complete (.field target token.text token.span.stop)⟩
  | methodName {frames : List Frame} {target : Operand} (kind : token.terminal = .name) :
      Moves token ⟨frames, .methodName target⟩ ⟨frames, .methodCall target token.text⟩
  | methodCall {frames : List Frame} {target : Operand} {name : String}
      (kind : token.terminal = .openParen) :
      Moves token ⟨frames, .methodCall target name⟩
        ⟨.arguments (.method target name) [] :: frames, .firstArgument⟩
  | keyValue {frames : List Frame} {key : Operand} (kind : token.terminal = .equals) :
      Moves token ⟨frames, .keyValue key⟩ ⟨.entry (.keyed key) :: frames, .operand⟩

/-! ## Every step is one of these -/

theorem begins_of_stepOperand
    (stepped : stepOperand frames token = some further) :
    Begins frames token further := by
  unfold stepOperand at stepped
  split at stepped
  · rename_i alone
    cases stepped
    exact .single alone
  · rename_i leading
    cases stepped
    exact .unary leading
  · split at stepped
    · rename_i kind
      cases stepped
      exact .group kind
    · rename_i kind
      cases stepped
      exact .table kind
    · rename_i kind
      split at stepped
      · rename_i admitted
        cases stepped
        exact .choice kind admitted
      · cases stepped
    · cases stepped

theorem closes_of_stepClose
    (stepped : stepClose frames operand token = some further) :
    Closes token (close frames operand).1 (close frames operand).2 further := by
  unfold stepClose at stepped
  generalize close frames operand = closed at stepped ⊢
  dsimp only at stepped
  split at stepped
  · split at stepped <;> cases stepped
    exact .group ‹_›
  · split at stepped <;> cases stepped
    exact .index ‹_›
  · split at stepped <;> cases stepped
    exact .key ‹_›
  · split at stepped <;> cases stepped
    · exact .nextArgument ‹_›
    · exact .lastArgument ‹_›
  · split at stepped <;> cases stepped
    · exact .nextField (Or.inl ‹_›)
    · exact .nextField (Or.inr ‹_›)
    · exact .lastField ‹_›
  · split at stepped <;> cases stepped
    exact .condition ‹_›
  · split at stepped <;> cases stepped
    · exact .nextBranch ‹_›
    · exact .otherwise ‹_›
  · cases stepped

theorem continues_of_stepComplete
    (stepped : stepComplete frames operand token = some further) :
    Continues frames operand token further := by
  unfold stepComplete at stepped
  split at stepped
  · cases stepped
    exact .member ‹_›
  · cases stepped
    exact .method ‹_›
  · cases stepped
    exact .index ‹_›
  · cases stepped
    exact .call ‹_›
  · split at stepped
    · cases stepped
      exact .binary ‹_›
    · exact .closing (closes_of_stepClose stepped)

theorem moves_of_step
    (stepped : progress.step token = some further) :
    Moves token progress further := by
  rcases progress with ⟨frames, phase⟩
  cases phase with
  | operand => exact .operand (begins_of_stepOperand stepped)
  | firstArgument =>
      rw [Progress.step] at stepped
      dsimp only at stepped
      split at stepped
      · cases stepped
        exact .noArgument ‹_›
      · exact .firstArgument (begins_of_stepOperand stepped)
  | field =>
      replace stepped : stepField frames token = some further := stepped
      unfold stepField at stepped
      split at stepped
      · split at stepped
        · cases stepped
          exact .noField ‹_›
        · cases stepped
      · cases stepped
        exact .keyed ‹_›
      · cases stepped
        exact .named ‹_›
      · exact .positional ‹_› (begins_of_stepOperand stepped)
  | complete operand => exact .complete (continues_of_stepComplete stepped)
  | fieldName operand name =>
      rw [Progress.step] at stepped
      dsimp only at stepped
      split at stepped
      · cases stepped
        exact .nameField ‹_›
      · exact .fieldName (continues_of_stepComplete stepped)
  | member target =>
      rw [Progress.step] at stepped
      dsimp only at stepped
      split at stepped <;> cases stepped
      exact .member ‹_›
  | methodName target =>
      rw [Progress.step] at stepped
      dsimp only at stepped
      split at stepped <;> cases stepped
      exact .methodName ‹_›
  | methodCall target name =>
      rw [Progress.step] at stepped
      dsimp only at stepped
      split at stepped <;> cases stepped
      exact .methodCall ‹_›
  | keyValue key =>
      rw [Progress.step] at stepped
      dsimp only at stepped
      split at stepped <;> cases stepped
      exact .keyValue ‹_›

/-! ## Expected kinds -/

theorem Begins.mem_operandStarts (begins : Begins frames token further) :
    token.terminal ∈ operandStarts frames := by
  apply List.mem_append.mpr
  cases begins with
  | single alone =>
      unfold Token.operand? at alone
      split at alone <;> rename_i kind
      all_goals first | exact Or.inl (by rw [kind]; decide) | cases alone
  | unary leading =>
      unfold Token.unary? at leading
      split at leading <;> rename_i kind
      all_goals first | exact Or.inl (by rw [kind]; decide) | cases leading
  | group kind => exact Or.inl (by rw [kind]; decide)
  | table kind => exact Or.inl (by rw [kind]; decide)
  | choice kind admitted => exact Or.inr (by rw [kind, admitted]; decide)

theorem closers_close (frames : List Frame) (operand : Operand) :
    closers (close frames operand).1 = closers frames := by
  induction frames generalizing operand with
  | nil => rfl
  | cons frame outer ih =>
      cases frame with
      | unary operator column => exact ih _
      | binary left operator => exact ih _
      | otherwise column done => exact ih _
      | _ => rfl

theorem Closes.mem_closers (closes : Closes token frames operand further) :
    token.terminal ∈ closers frames := by
  cases closes with
  | nextField kind => rcases kind with kind | kind <;> simp [closers, kind]
  | _ kind => simp [closers, kind]

theorem Continues.mem_continuations (continues : Continues frames operand token further) :
    token.terminal ∈ operandContinuations ++ closers frames := by
  apply List.mem_append.mpr
  cases continues with
  | member kind => exact Or.inl (by rw [kind]; decide)
  | method kind => exact Or.inl (by rw [kind]; decide)
  | index kind => exact Or.inl (by rw [kind]; decide)
  | call kind => exact Or.inl (by rw [kind]; decide)
  | binary between =>
      unfold Token.binary? at between
      split at between <;> rename_i kind
      all_goals first | exact Or.inl (by rw [kind]; decide) | cases between
  | closing closes =>
      have member := closes.mem_closers
      rw [closers_close] at member
      exact Or.inr member

/-! ## Each of these is a step -/

theorem stepOperand_of_begins (begins : Begins frames token further) :
    stepOperand frames token = some further := by
  cases begins with
  | single alone => rw [stepOperand, alone]
  | unary leading =>
      have behind : token.operand? = none := by
        unfold Token.unary? at leading
        split at leading <;> rename_i kind
        all_goals first | rw [Token.operand?, kind] | cases leading
      rw [stepOperand, behind, leading]
  | group kind => simp [stepOperand, Token.operand?, Token.unary?, kind]
  | table kind => simp [stepOperand, Token.operand?, Token.unary?, kind]
  | choice kind admitted => simp [stepOperand, Token.operand?, Token.unary?, kind, admitted]

theorem stepClose_of_closes
    (closes : Closes token (close frames operand).1 (close frames operand).2 further) :
    stepClose frames operand token = some further := by
  unfold stepClose
  generalize close frames operand = closed at closes ⊢
  rcases closed with ⟨outer, last⟩
  cases closes with
  | nextField kind => rcases kind with kind | kind <;> simp [kind]
  | _ kind => simp [kind]

theorem mem_of_mem_operandStarts
    {terminal : Terminal}
    (member : terminal ∈ operandStarts frames) :
    terminal ∈ operandStarts [] := by
  rcases List.mem_append.mp member with always | choice
  · exact List.mem_append_left _ always
  · split at choice
    · exact List.mem_append_right _ choice
    · cases choice

theorem mem_of_mem_closers (frames : List Frame) :
    ∀ terminal ∈ closers frames,
      terminal ∈ [Terminal.closeParen, .closeBracket, .closeBrace, .comma, .semicolon, .thenWord,
        .elseWord, .elseifWord] := by
  induction frames with
  | nil => decide
  | cons frame outer ih =>
      cases frame with
      | unary operator column => exact ih
      | binary left operator => exact ih
      | otherwise column done => exact ih
      | _ =>
          simp only [closers]
          decide

theorem stepComplete_of_continues (continues : Continues frames operand token further) :
    stepComplete frames operand token = some further := by
  cases continues with
  | member kind => rw [stepComplete, kind]
  | method kind => rw [stepComplete, kind]
  | index kind => rw [stepComplete, kind]
  | call kind => rw [stepComplete, kind]
  | binary between =>
      have apart := between
      unfold Token.binary? at apart
      split at apart <;> rename_i kind
      all_goals first | cases apart | simp [stepComplete, kind, between]
  | closing closes =>
      have closing := closes.mem_closers
      rw [closers_close] at closing
      have kinds := mem_of_mem_closers frames _ closing
      have stepped := stepClose_of_closes closes
      simp only [List.mem_cons, List.not_mem_nil, or_false] at kinds
      rcases kinds with kind | kind | kind | kind | kind | kind | kind | kind <;>
        simpa [stepComplete, Token.binary?, kind] using stepped

theorem step_of_moves (moves : Moves token progress further) :
    progress.step token = some further := by
  cases moves with
  | operand begins => exact stepOperand_of_begins begins
  | firstArgument begins =>
      have starts := mem_of_mem_operandStarts begins.mem_operandStarts
      rw [Progress.step]
      dsimp only
      split
      · rename_i kind
        rw [kind] at starts
        exact absurd starts (by decide)
      · exact stepOperand_of_begins begins
  | noArgument kind => rw [Progress.step, kind]
  | noField kind => rw [Progress.step, stepField, kind]
  | keyed kind => simp [Progress.step, stepField, kind]
  | named kind => simp [Progress.step, stepField, kind]
  | positional nameless begins =>
      have starts := mem_of_mem_operandStarts begins.mem_operandStarts
      rw [Progress.step]
      dsimp only
      unfold stepField
      split
      · rename_i kind
        rw [kind] at starts
        exact absurd starts (by decide)
      · rename_i kind
        rw [kind] at starts
        exact absurd starts (by decide)
      · exact absurd ‹_› nameless
      · exact stepOperand_of_begins begins
  | complete continues => exact stepComplete_of_continues continues
  | @fieldName frames operand name _ continues =>
      have apart : token.terminal ≠ .equals := by
        intro kind
        rcases List.mem_append.mp continues.mem_continuations with going | closing
        · rw [kind] at going
          exact absurd going (by decide)
        · rw [kind] at closing
          exact absurd (mem_of_mem_closers frames _ closing) (by decide)
      rw [Progress.step]
      dsimp only
      split
      · exact absurd ‹_› apart
      · exact stepComplete_of_continues continues
  | nameField kind => rw [Progress.step, kind]
  | member kind => rw [Progress.step, kind]
  | methodName kind => rw [Progress.step, kind]
  | methodCall kind => rw [Progress.step, kind]
  | keyValue kind => rw [Progress.step, kind]

/-! ## Fields begin inside tables -/

/-- A field begins only where a choice may stand. -/
def Progress.Sane (progress : Progress) : Prop :=
  progress.phase = .field → admitsChoice progress.frames = true

theorem sane_start : Progress.Sane .start := by
  intro field
  cases field

/-- A token that fits is of an expected kind. -/
theorem mem_expected_of_step
    (sane : progress.Sane)
    (stepped : progress.step token = some further) :
    token.terminal ∈ progress.expected := by
  cases moves_of_step stepped with
  | operand begins => exact begins.mem_operandStarts
  | firstArgument begins => exact List.mem_cons_of_mem _ begins.mem_operandStarts
  | noArgument kind => exact List.mem_cons.mpr (Or.inl kind)
  | noField kind => exact List.mem_cons.mpr (Or.inl kind)
  | keyed kind => exact List.mem_cons_of_mem _ (List.mem_cons.mpr (Or.inl kind))
  | @named frames kind =>
      have starts : token.terminal ∈ operandStarts frames :=
        List.mem_append_left _ (by rw [kind]; decide)
      exact List.mem_cons_of_mem _ (List.mem_cons_of_mem _ starts)
  | @positional frames _ _ begins =>
      have inside : admitsChoice frames = true := sane rfl
      have starts := begins.mem_operandStarts
      have same : operandStarts (.entry .positional :: frames) = operandStarts frames := by
        rw [operandStarts, operandStarts, inside]
        rfl
      rw [same] at starts
      exact List.mem_cons_of_mem _ (List.mem_cons_of_mem _ starts)
  | complete continues => exact continues.mem_continuations
  | fieldName continues => exact List.mem_cons_of_mem _ continues.mem_continuations
  | nameField kind => exact List.mem_cons.mpr (Or.inl kind)
  | member kind => exact List.mem_singleton.mpr kind
  | methodName kind => exact List.mem_singleton.mpr kind
  | methodCall kind => exact List.mem_singleton.mpr kind
  | keyValue kind => exact List.mem_singleton.mpr kind

/-- Every step leads to a point where fields begin inside tables only. -/
theorem sane_of_step (stepped : progress.step token = some further) : further.Sane := by
  have begun : ∀ frames, Begins frames token further → further.Sane := by
    intro frames begins
    cases begins <;> intro field <;> first | rfl | cases field
  have closed : ∀ frames operand, Closes token frames operand further → further.Sane := by
    intro frames operand closes
    cases closes <;> intro field <;> first | rfl | cases field
  have continued : ∀ frames operand, Continues frames operand token further → further.Sane := by
    intro frames operand continues
    cases continues with
    | closing closes => exact closed _ _ closes
    | _ => intro field; cases field
  cases moves_of_step stepped with
  | operand begins => exact begun _ begins
  | firstArgument begins => exact begun _ begins
  | positional _ begins => exact begun _ begins
  | complete continues => exact continued _ _ continues
  | fieldName continues => exact continued _ _ continues
  | _ => intro field; cases field

end LuauNodes.Expression
