import LuauNodes.Proofs.Expression.Grammar
import LuauNodes.Proofs.Expression.Pieces

/-!
# Trees of derivations

What the phrases of the grammar stand for, stated apart from any way to read
them.  A rule composes parts: its tokens, and what is made of its phrases.  Each
phrase makes one part of these.  Every word that the grammar derives is given a
tree in this way, whichever lexemes its tokens have.
-/

namespace LuauNodes.Expression

/-- A part of a phrase: a token, or what is made of a phrase inside. -/
inductive Part where
  | token (token : Token)
  | operand (operand : Operand)
  | arguments (arguments : List Operand)
  | entry (entry : Entry)

/-- The operand that a part is. -/
def Part.operand? : Part → Option Operand
  | operand own => some own
  | _ => none

/-- The table field that a part is. -/
def Part.entry? : Part → Option Entry
  | entry own => some own
  | _ => none

/-! ## What is made of parts -/

/-- Operands with operators between them group to the left. -/
def infixTree (left : Operand) : List Part → Option Operand
  | [] => some left
  | .token token :: .operand right :: others =>
    token.binary?.bind fun operator => infixTree (.binary operator left right) others
  | _ => none

/-- Conditions with their values, and the operand that is left behind them. -/
def branchesOf : List Operand → Option (List (Operand × Operand) × Operand)
  | [] => none
  | [otherwise] => some ([], otherwise)
  | condition :: value :: others =>
    (branchesOf others).map fun found => ((condition, value) :: found.1, found.2)

/-- The conditions of branches with their values. -/
def operandsOf (branches : List (Operand × Operand)) : List Operand :=
  branches.flatMap fun branch => [branch.1, branch.2]

theorem branchesOf_operandsOf (branches : List (Operand × Operand)) (otherwise : Operand) :
    branchesOf (operandsOf branches ++ [otherwise]) = some (branches, otherwise) := by
  induction branches with
  | nil => rfl
  | cons branch branches ih =>
      rw [operandsOf, List.flatMap_cons, List.append_assoc, List.cons_append, List.cons_append,
        List.nil_append]
      rw [operandsOf] at ih
      cases branches with
      | nil => rfl
      | cons => rw [branchesOf, ih, Option.map_some]

/-- A choice starts at its first token and pairs its operands. -/
def makeChoice : List Part → Option Part
  | .token first :: others =>
    (branchesOf (others.filterMap Part.operand?)).map fun found =>
      .operand (.choice first.span.first found.1 found.2)
  | _ => none

/-- Operands of one level. -/
def makeInfix : List Part → Option Part
  | .operand first :: others => (infixTree first others).map .operand
  | _ => none

/-- An operator in front of its operand, or an operand. -/
def makeUnary : List Part → Option Part
  | [.token token, .operand operand] =>
    token.unary?.map fun operator => .operand (.unary operator token.span.first operand)
  | [.operand whole] => some (.operand whole)
  | _ => none

/-- An operand, or what is read from it or called on it. -/
def makeAccess : List Part → Option Part
  | [.operand whole] => some (.operand whole)
  | [.operand target, .token mark, .token last] =>
    match mark.terminal with
    | .dot => some (.operand (.field target last.text last.span.stop))
    | .openParen => some (.operand (.call target [] last.span.stop))
    | _ => none
  | [.operand target, .token _, .operand key, .token last] =>
    some (.operand (.index target key last.span.stop))
  | [.operand callee, .token _, .arguments arguments, .token last] =>
    some (.operand (.call callee arguments last.span.stop))
  | [.operand target, .token _, .token name, .token _, .token last] =>
    some (.operand (.method target name.text [] last.span.stop))
  | [.operand target, .token _, .token name, .token _, .arguments arguments, .token last] =>
    some (.operand (.method target name.text arguments last.span.stop))
  | _ => none

/-- The arguments among the parts. -/
def makeArguments (parts : List Part) : Option Part :=
  some (.arguments (parts.filterMap Part.operand?))

/-- A single token, an operand in parentheses, or a table. -/
def makePrimary : List Part → Option Part
  | [.token token] => token.operand?.map .operand
  | [.token _, .operand inner, .token _] => some (.operand inner.parenthesised)
  | [.operand whole] => some (.operand whole)
  | _ => none

/-- The fields among the parts, from the first token to the last one. -/
def makeTable : List Part → Option Part
  | .token first :: others =>
    match others.getLast? with
    | some (.token last) =>
      some (.operand
        (.table ⟨first.span.first, last.span.stop⟩ (others.filterMap Part.entry?)))
    | _ => none
  | _ => none

theorem makeTable_closed (opening closing : Token) (inner : List Part) :
    makeTable (.token opening :: (inner ++ [.token closing])) =
      some (.operand (.table ⟨opening.span.first, closing.span.stop⟩
        (inner.filterMap Part.entry?))) := by
  simp [makeTable, List.filterMap_cons, Part.entry?]

/-- A field with a key in brackets, with a name, or with neither. -/
def makeField : List Part → Option Part
  | [.token _, .operand key, .token _, .token _, .operand value] =>
    some (.entry ⟨.keyed key, value⟩)
  | [.token name, .token _, .operand value] => some (.entry ⟨.named name.text, value⟩)
  | [.operand value] => some (.entry ⟨.positional, value⟩)
  | _ => none

/-- What a phrase makes of its parts. -/
def Phrase.make : Phrase → List Part → Option Part
  | .choice => makeChoice
  | .expression | .disjunction | .conjunction | .comparison | .concatenation | .sum | .product
  | .power => makeInfix
  | .unary => makeUnary
  | .access => makeAccess
  | .arguments => makeArguments
  | .primary => makePrimary
  | .table => makeTable
  | .field => makeField

/-! ## Derivations -/

/-- The characters of a token are a lexeme of its terminal, whatever stands behind it. -/
def Token.Fits (token : Token) : Prop :=
  ∃ rest, token.terminal.pattern.Fits token.lexeme rest

/-! ### Lexemes of operators -/

namespace Pattern

variable {lexeme rest : List Char}

theorem Fits.text_mem_of_among
    {texts : List String}
    (fits : (among texts).Fits lexeme rest) :
    String.ofList lexeme ∈ texts := by
  induction texts with
  | nil =>
      cases fits with
      | one impossible => cases impossible
  | cons text others ih =>
      cases others with
      | nil =>
          cases fits
          simp
      | cons second others =>
          cases fits with
          | left fits =>
              cases fits
              simp
          | right fits => exact List.mem_cons_of_mem text (ih fits)

theorem Fits.text_eq_of_keyword
    {word : String}
    (fits : (keyword word).Fits lexeme rest) :
    String.ofList lexeme = word := by
  cases fits with
  | followedBy exact ending =>
      cases exact
      cases ending
      simp

end Pattern

/-- A terminal with fixed texts has no other lexemes. -/
theorem Token.Fits.text_mem
    {token : Token}
    (fits : token.Fits)
    (fixed : token.terminal.texts ≠ []) :
    token.text ∈ token.terminal.texts := by
  obtain ⟨rest, fits⟩ := fits
  unfold Token.text
  generalize token.terminal = terminal at fits fixed ⊢
  cases terminal with
  | name | number | string => exact absurd rfl fixed
  | andWord | orWord | notWord | nilWord | trueWord | falseWord | ifWord | thenWord | elseWord
  | elseifWord => exact List.mem_singleton.mpr fits.text_eq_of_keyword
  | _ => exact fits.text_mem_of_among

/-- The terminals that stand between operands. -/
def Terminal.isInfix : Terminal → Bool
  | .orWord | .andWord | .comparison | .concat | .plus | .minus | .product | .power => true
  | _ => false

theorem Token.Fits.binary?
    {token : Token}
    (fits : token.Fits)
    (between : token.terminal.isInfix = true) :
    ∃ operator : BinaryOperator, token.binary? = some operator ∧
      operator.terminal = token.terminal := by
  have known : ∀ terminal ∈ Terminal.all, terminal.isInfix = true →
      terminal.texts ≠ [] ∧ ∀ text ∈ terminal.texts,
        (BinaryOperator.ofSymbol? text).map BinaryOperator.terminal = some terminal := by
    decide +kernel
  obtain ⟨fixed, symbols⟩ := known token.terminal token.terminal.mem_all between
  have found := symbols token.text (fits.text_mem fixed)
  obtain ⟨operator, isSymbol, same⟩ := Option.map_eq_some_iff.mp found
  refine ⟨operator, ?_, same⟩
  rw [← isSymbol]
  unfold Token.binary?
  generalize token.terminal = terminal at between ⊢
  cases terminal <;> first | rfl | cases between

/-! ### Rules -/

/-- A form composes parts of tokens, where it is known what the phrases in it make of theirs. -/
inductive Form.Composes (Makes : Phrase → List Token → Part → Prop) :
    Form → List Token → List Part → Prop where
  | nothing :
      Composes Makes .nothing [] []
  | token
      {terminal : Terminal}
      {token : Token}
      (kind : token.terminal = terminal)
      (fits : token.Fits) :
      Composes Makes (.token terminal) [token] [.token token]
  | phrase
      {phrase : Phrase}
      {tokens : List Token}
      {part : Part}
      (makes : Makes phrase tokens part) :
      Composes Makes (.phrase phrase) tokens [part]
  | followedBy
      {first second : Form}
      {front back : List Token}
      {frontParts backParts : List Part}
      (firstComposes : Composes Makes first front frontParts)
      (secondComposes : Composes Makes second back backParts) :
      Composes Makes (.followedBy first second) (front ++ back) (frontParts ++ backParts)
  | left
      {first second : Form}
      {tokens : List Token}
      {parts : List Part}
      (composes : Composes Makes first tokens parts) :
      Composes Makes (.either first second) tokens parts
  | right
      {first second : Form}
      {tokens : List Token}
      {parts : List Part}
      (composes : Composes Makes second tokens parts) :
      Composes Makes (.either first second) tokens parts
  | stop
      {form : Form} :
      Composes Makes (.many form) [] []
  | again
      {form : Form}
      {front back : List Token}
      {frontParts backParts : List Part}
      (composes : Composes Makes form front frontParts)
      (others : Composes Makes (.many form) back backParts) :
      Composes Makes (.many form) (front ++ back) (frontParts ++ backParts)

/-- Some derivation of a phrase from tokens builds the part. -/
inductive Phrase.Builds : Phrase → List Token → Part → Prop where
  | rule
      {phrase : Phrase}
      {tokens : List Token}
      {parts : List Part}
      {part : Part}
      (composes : phrase.rule.Composes Phrase.Builds tokens parts)
      (made : phrase.make parts = some part) :
      Builds phrase tokens part

variable {Makes Others : Phrase → List Token → Part → Prop}
variable {form first second : Form} {terminal : Terminal} {phrase : Phrase}
variable {tokens : List Token} {parts : List Part} {part : Part}

namespace Form.Composes

theorem mono
    (composes : form.Composes Makes tokens parts)
    (implies : ∀ phrase tokens part, Makes phrase tokens part → Others phrase tokens part) :
    form.Composes Others tokens parts := by
  induction composes with
  | nothing => exact .nothing
  | token kind fits => exact .token kind fits
  | phrase makes => exact .phrase (implies _ _ _ makes)
  | followedBy _ _ firstIh secondIh => exact .followedBy firstIh secondIh
  | left _ ih => exact .left ih
  | right _ ih => exact .right ih
  | stop => exact .stop
  | again _ _ ih others => exact .again ih others

/-! ### What stands first -/

theorem of_token (composes : (Form.token terminal).Composes Makes tokens parts) :
    ∃ token : Token, tokens = [token] ∧ parts = [.token token] ∧ token.terminal = terminal ∧
      token.Fits := by
  cases composes with
  | token kind fits => exact ⟨_, rfl, rfl, kind, fits⟩

theorem of_phrase (composes : (Form.phrase phrase).Composes Makes tokens parts) :
    ∃ part, parts = [part] ∧ Makes phrase tokens part := by
  cases composes with
  | phrase makes => exact ⟨_, rfl, makes⟩

theorem of_token_followedBy
    (composes : (Form.followedBy (.token terminal) second).Composes Makes tokens parts) :
    ∃ (token : Token) (others : List Token) (otherParts : List Part),
      tokens = token :: others ∧ parts = .token token :: otherParts ∧
        token.terminal = terminal ∧ token.Fits ∧ second.Composes Makes others otherParts := by
  cases composes with
  | followedBy firstComposes secondComposes =>
      obtain ⟨token, rfl, rfl, kind, fits⟩ := firstComposes.of_token
      exact ⟨token, _, _, rfl, rfl, kind, fits, secondComposes⟩

theorem of_phrase_followedBy
    (composes : (Form.followedBy (.phrase phrase) second).Composes Makes tokens parts) :
    ∃ (front back : List Token) (part : Part) (otherParts : List Part),
      tokens = front ++ back ∧ parts = part :: otherParts ∧ Makes phrase front part ∧
        second.Composes Makes back otherParts := by
  cases composes with
  | followedBy firstComposes secondComposes =>
      obtain ⟨part, rfl, makes⟩ := firstComposes.of_phrase
      exact ⟨_, _, part, _, rfl, rfl, makes, secondComposes⟩

theorem of_either (composes : (Form.either first second).Composes Makes tokens parts) :
    first.Composes Makes tokens parts ∨ second.Composes Makes tokens parts := by
  cases composes with
  | left composes => exact Or.inl composes
  | right composes => exact Or.inr composes

theorem of_perhaps (composes : (Form.perhaps form).Composes Makes tokens parts) :
    form.Composes Makes tokens parts ∨ tokens = [] ∧ parts = [] := by
  rcases composes.of_either with composes | composes
  · exact Or.inl composes
  · cases composes
    exact Or.inr ⟨rfl, rfl⟩

theorem of_fieldSeparator
    (composes : Form.fieldSeparator.Composes Makes tokens parts) :
    ∃ token : Token, tokens = [token] ∧ parts = [.token token] ∧
      (token.terminal = .comma ∨ token.terminal = .semicolon) := by
  rcases composes.of_either with comma | semicolon
  · obtain ⟨token, rfl, rfl, kind, _⟩ := comma.of_token
    exact ⟨token, rfl, rfl, Or.inl kind⟩
  · obtain ⟨token, rfl, rfl, kind, _⟩ := semicolon.of_token
    exact ⟨token, rfl, rfl, Or.inr kind⟩

theorem filterMap_entry?_of_perhaps
    (composes : (Form.perhaps .fieldSeparator).Composes Makes tokens parts) :
    parts.filterMap Part.entry? = [] := by
  rcases composes.of_perhaps with separates | ⟨_, rfl⟩
  · obtain ⟨_, _, rfl, _⟩ := separates.of_fieldSeparator
    rfl
  · rfl

end Form.Composes

/-- A form is a token between operands on a level. -/
def Form.Separates (separator : Form) (level : Nat) : Prop :=
  ∀ (Makes : Phrase → List Token → Part → Prop) (tokens : List Token) (parts : List Part),
    separator.Composes Makes tokens parts →
      ∃ (token : Token) (operator : BinaryOperator),
        tokens = [token] ∧ parts = [.token token] ∧ token.binary? = some operator ∧
          operator.rank = level

theorem Form.separates_token
    {level : Nat}
    (between : terminal.isInfix = true)
    (leveled : ∀ operator : BinaryOperator, operator.terminal = terminal → operator.rank = level) :
    (Form.token terminal).Separates level := by
  intro Makes tokens parts composes
  obtain ⟨token, rfl, rfl, rfl, fits⟩ := composes.of_token
  obtain ⟨operator, known, kind⟩ := fits.binary? between
  exact ⟨token, operator, rfl, rfl, known, leveled operator kind⟩

theorem Form.Separates.either
    {level : Nat}
    (firstSeparates : first.Separates level)
    (secondSeparates : second.Separates level) :
    (Form.either first second).Separates level := by
  intro Makes tokens parts composes
  cases composes with
  | left composes => exact firstSeparates _ _ _ composes
  | right composes => exact secondSeparates _ _ _ composes

/-- What every rule passes on from its phrases to the part that is made of them holds of every part
that is built. -/
theorem Phrase.Builds.induct
    (step : ∀ {phrase tokens parts part}, phrase.rule.Composes Makes tokens parts →
      phrase.make parts = some part → Makes phrase tokens part)
    (builds : phrase.Builds tokens part) :
    Makes phrase tokens part := by
  refine builds.rec (motive_1 := fun phrase tokens part _ => Makes phrase tokens part)
    (motive_2 := fun form tokens parts _ => form.Composes Makes tokens parts)
    ?_ .nothing .token ?_ ?_ ?_ ?_ .stop ?_
  · exact fun _ made composes => step composes made
  · exact fun _ => .phrase
  · exact fun _ _ => .followedBy
  · exact fun _ => .left
  · exact fun _ => .right
  · exact fun _ _ => .again

end LuauNodes.Expression
