import LuauNodes.Proofs.Expression.Arrival
import LuauNodes.Proofs.Expression.Derivation

/-!
# Reading derivations

Reading the tokens of a phrase comes to what any of its derivations builds,
wherever the phrase may stand.  A rule is read if its phrases are, so the proof
goes along the derivation, one case for each phrase.
-/

namespace LuauNodes.Expression

/-! ## Phrases -/

/-- The level on which a phrase stands as an operand. -/
def Phrase.rank : Phrase → Nat
  | .expression | .choice | .arguments | .field => 0
  | .disjunction => 1
  | .conjunction => 2
  | .comparison => 3
  | .concatenation => 4
  | .sum => 5
  | .product => 6
  | .unary => unaryRank
  | .power => 8
  | .access | .primary | .table => postfixRank

/-- The tokens of a phrase are read as the part. -/
def Phrase.ReadAs (phrase : Phrase) (tokens : List Token) (part : Part) : Prop :=
  match phrase with
  | .arguments => ∃ operands, part = .arguments operands ∧ ReadAsArguments tokens operands
  | .field => ∃ entry, part = .entry entry ∧ ReadAsEntry tokens entry
  | phrase => ∃ whole, part = .operand whole ∧ ReadAsOperand phrase.rank tokens whole

/-- One part is made of the parts of a phrase, and the tokens are read as it. -/
def Phrase.Settles (phrase : Phrase) (tokens : List Token) (parts : List Part) : Prop :=
  ∃ part, phrase.make parts = some part ∧ phrase.ReadAs tokens part

variable {frames opened outer : List Frame} {whole left last : Operand} {rank : Nat}
variable {token : Token} {tokens front back : List Token} {parts : List Part} {part : Part}
variable {phrase : Phrase} {progress further : Progress} {Holds : Progress → Prop}

/-! ### Operators -/

/-- The operators of a level and their right operands, behind the first operand of the level. -/
theorem arrives_infix
    {item : Phrase}
    {separator : Form}
    {level : Nat}
    (below : level < unaryRank)
    (separates : separator.Separates level)
    (operands : ∀ tokens part, item.ReadAs tokens part →
      ∃ right, part = .operand right ∧ ReadAsOperand (level + 1) tokens right)
    (composes : (Form.many (.followedBy separator (.phrase item))).Composes Phrase.ReadAs
      tokens parts) :
    ∃ whole, infixTree left parts = some whole ∧ ∀ {frames progress}, Hosts level frames →
      Completed level frames left progress →
        Arrives (Completed level frames whole) tokens progress := by
  generalize isMany : Form.many (.followedBy separator (.phrase item)) = form at composes
  induction composes generalizing left with
  | stop => exact ⟨left, rfl, fun _ completed => arrives_nil completed⟩
  | again composes _ _ ih =>
      cases isMany
      cases composes with
      | followedBy separatorComposes itemComposes =>
          obtain ⟨token, operator, rfl, rfl, between, rfl⟩ := separates _ _ _ separatorComposes
          obtain ⟨part, rfl, makes⟩ := itemComposes.of_phrase
          obtain ⟨right, rfl, reads⟩ := operands _ _ makes
          -- On the levels below the unary operators, operators of one level group to the left.
          have apart : operator ≠ .power := by
            rintro rfl
            exact absurd below (by decide)
          obtain ⟨whole, built, others⟩ := @ih (.binary operator left right) rfl
          refine ⟨whole, ?_, ?_⟩
          · simpa [infixTree, between] using built
          · rintro frames _ hosts ⟨opened, last, rfl, stands⟩
            have reading := arrives_binary hosts (leftRank_eq apart ▸ stands) between
              (rightRank_eq apart ▸ reads)
            rw [List.singleton_append]
            exact reading.andThen fun _ completed => others hosts completed
  | _ => cases isMany

/-- A level of infix operators over the next one. -/
theorem settles_separated
    {item : Phrase}
    {separator : Form}
    (isLevel : phrase.rule = .separated item separator)
    (makes : phrase.make = makeInfix)
    (below : phrase.rank < unaryRank)
    (separates : separator.Separates phrase.rank)
    (isOperand : ∀ {tokens whole}, ReadAsOperand phrase.rank tokens whole →
      phrase.ReadAs tokens (.operand whole))
    (operands : ∀ tokens part, item.ReadAs tokens part →
      ∃ right, part = .operand right ∧ ReadAsOperand (phrase.rank + 1) tokens right)
    (composes : phrase.rule.Composes Phrase.ReadAs tokens parts) :
    phrase.Settles tokens parts := by
  rw [isLevel] at composes
  obtain ⟨front, back, first, others, rfl, rfl, readAs, loop⟩ := composes.of_phrase_followedBy
  obtain ⟨left, rfl, reads⟩ := operands _ _ readAs
  obtain ⟨whole, built, arrives⟩ := arrives_infix below separates operands loop
  refine ⟨.operand whole, by rw [makes, makeInfix, built, Option.map_some], ?_⟩
  refine isOperand fun frames hosts => ?_
  exact (reads.mono (Nat.le_succ phrase.rank) frames hosts).andThen fun _ completed =>
    arrives hosts completed

/-- A phrase behind a unary operator. -/
theorem settles_leading
    {terminal : Terminal}
    (leads : ∀ token : Token, token.terminal = terminal →
      ∃ operator, token.unary? = some operator)
    (composes : (Form.inTurn [.token terminal, .phrase .unary]).Composes Phrase.ReadAs
      tokens parts) :
    Phrase.unary.Settles tokens parts := by
  obtain ⟨token, others, otherParts, rfl, rfl, kind, _, inner⟩ := composes.of_token_followedBy
  obtain ⟨_, rfl, operand, rfl, reads⟩ := inner.of_phrase
  obtain ⟨operator, leading⟩ := leads token kind
  have made : makeUnary [.token token, .operand operand] =
      some (.operand (.unary operator token.span.first operand)) := by
    rw [makeUnary, leading, Option.map_some]
  exact ⟨_, made, _, rfl, readAsOperand_unary leading reads⟩

theorem settles_unary (composes : Phrase.unary.rule.Composes Phrase.ReadAs tokens parts) :
    Phrase.unary.Settles tokens parts := by
  rcases composes.of_either with negation | composes
  · exact settles_leading (fun token kind => ⟨_, by rw [Token.unary?, kind]⟩) negation
  rcases composes.of_either with minus | composes
  · exact settles_leading (fun token kind => ⟨_, by rw [Token.unary?, kind]⟩) minus
  rcases composes.of_either with length | power
  · exact settles_leading (fun token kind => ⟨_, by rw [Token.unary?, kind]⟩) length
  · obtain ⟨_, rfl, whole, rfl, reads⟩ := power.of_phrase
    exact ⟨_, rfl, whole, rfl, reads.mono (by decide)⟩

theorem settles_power (composes : Phrase.power.rule.Composes Phrase.ReadAs tokens parts) :
    Phrase.power.Settles tokens parts := by
  obtain ⟨front, back, _, others, rfl, rfl, ⟨left, rfl, baseReads⟩, exponent⟩ :=
    composes.of_phrase_followedBy
  rcases exponent.of_perhaps with raised | ⟨rfl, rfl⟩
  · obtain ⟨token, _, _, rfl, rfl, kind, fits, inner⟩ := raised.of_token_followedBy
    obtain ⟨_, rfl, right, rfl, exponentReads⟩ := inner.of_phrase
    obtain ⟨operator, between, same⟩ := fits.binary? (by rw [kind]; rfl)
    have isPower : operator = .power := by
      rw [kind] at same
      cases operator <;> first | rfl | cases same
    subst isPower
    have made : makeInfix [.operand left, .token token, .operand right] =
        some (.operand (.binary .power left right)) := by
      simp [makeInfix, infixTree, between]
    refine ⟨_, made, _, rfl, fun frames hosts => ?_⟩
    have powerHosts : Hosts BinaryOperator.power.rank frames := hosts
    refine (baseReads frames (hosts.mono (by decide))).andThen ?_
    rintro _ ⟨opened, last, rfl, stands⟩
    exact arrives_binary powerHosts stands between exponentReads
  · rw [List.append_nil]
    exact ⟨_, rfl, left, rfl, baseReads.mono (by decide)⟩

/-! ### Calls -/

/-- What begins an operand begins the first argument of a call. -/
theorem arrives_firstArgument
    (arrives : Arrives (Completed rank frames whole) tokens ⟨opened, .operand⟩) :
    Arrives (Completed rank frames whole) tokens ⟨opened, .firstArgument⟩ := by
  cases tokens with
  | nil =>
      obtain ⟨_, done, _, _, impossible, _⟩ := arrives
      cases done
      cases impossible
  | cons token tokens =>
      obtain ⟨between, moves, arrives⟩ := arrives.of_cons
      cases moves with
      | operand begins => exact arrives_cons (.firstArgument begins) arrives

theorem arrives_arguments
    {callee : Callee}
    {operands : List Operand}
    (composes : (Form.many (.followedBy (.token .comma) (.phrase .expression))).Composes
      Phrase.ReadAs tokens parts)
    (calling : Calling frames callee operands progress) :
    Arrives (Calling frames callee (operands ++ parts.filterMap Part.operand?)) tokens
      progress := by
  generalize isMany : Form.many (.followedBy (.token .comma) (.phrase .expression)) = form
    at composes
  induction composes generalizing operands progress with
  | stop =>
      rw [List.filterMap_nil, List.append_nil]
      exact arrives_nil calling
  | again composes _ _ ih =>
      cases isMany
      obtain ⟨comma, _, _, rfl, rfl, kind, _, item⟩ := composes.of_token_followedBy
      obtain ⟨_, rfl, argument, rfl, reads⟩ := item.of_phrase
      obtain ⟨opened, last, done, whole, rfl, closed, rfl⟩ := calling
      refine arrives_closing closed (.nextArgument kind) ?_
      refine (reads _ (hosts_of_admitsChoice rfl)).andThen ?_
      rintro _ ⟨further, next, rfl, stands⟩
      have called : Calling frames callee ((whole :: done).reverse ++ [argument])
          ⟨further, .complete next⟩ :=
        ⟨further, next, whole :: done, argument, rfl, stands.closes, by simp⟩
      have arrives := ih called rfl
      rwa [List.append_assoc] at arrives
  | _ => cases isMany

theorem settles_arguments (composes : Phrase.arguments.rule.Composes Phrase.ReadAs tokens parts) :
    Phrase.arguments.Settles tokens parts := by
  obtain ⟨front, back, _, others, rfl, rfl, ⟨first, rfl, reads⟩, loop⟩ :=
    composes.of_phrase_followedBy
  refine ⟨_, rfl, _, rfl, fun frames callee => ?_⟩
  refine (arrives_firstArgument (reads _ (hosts_of_admitsChoice rfl))).andThen ?_
  rintro _ ⟨opened, last, rfl, stands⟩
  exact arrives_arguments loop ⟨opened, last, [], first, rfl, stands.closes, rfl⟩

/-- Whatever is called, the tokens are read as the rest of the call with its arguments. -/
def ReadAsCall (tokens : List Token) (operands : List Operand) (stop : Nat) : Prop :=
  ∀ frames callee, Arrives (· = ⟨frames, .complete (callee.call operands stop)⟩) tokens
    ⟨.arguments callee [] :: frames, .firstArgument⟩

/-- The parts of a call behind what is called. -/
theorem readAsCall_parenthesised
    (composes : Form.parenthesised.Composes Phrase.ReadAs tokens parts) :
    ∃ opening closing others operands,
      tokens = opening :: others ∧ opening.terminal = .openParen ∧
        ReadAsCall others operands closing.span.stop ∧
          (parts = [.token opening, .token closing] ∧ operands = [] ∨
            parts = [.token opening, .arguments operands, .token closing]) := by
  obtain ⟨opening, others, _, rfl, rfl, opens, _, inner⟩ := composes.of_token_followedBy
  cases inner with
  | followedBy argumentsCompose closingComposes =>
      obtain ⟨closing, rfl, rfl, closes, _⟩ := closingComposes.of_token
      rcases argumentsCompose.of_perhaps with given | ⟨rfl, rfl⟩
      · obtain ⟨_, rfl, operands, rfl, reads⟩ := given.of_phrase
        refine ⟨opening, closing, _, operands, rfl, opens, ?_, Or.inr rfl⟩
        intro frames callee
        refine (reads frames callee).andThen ?_
        rintro _ ⟨opened, last, done, whole, rfl, closed, rfl⟩
        exact arrives_closing closed (.lastArgument closes) (arrives_nil rfl)
      · refine ⟨opening, closing, _, [], rfl, opens, ?_, Or.inl ⟨rfl, rfl⟩⟩
        intro frames callee
        exact arrives_cons (.noArgument closes) (arrives_nil rfl)

/-! ### What is read from an operand -/

theorem settles_member
    (composes : (Form.inTurn [.phrase .access, .token .dot, .token .name]).Composes
      Phrase.ReadAs tokens parts) :
    Phrase.access.Settles tokens parts := by
  obtain ⟨_, _, _, _, rfl, rfl, ⟨target, rfl, reads⟩, dotted⟩ := composes.of_phrase_followedBy
  obtain ⟨dot, _, _, rfl, rfl, isDot, _, named⟩ := dotted.of_token_followedBy
  obtain ⟨name, rfl, rfl, isName, _⟩ := named.of_token
  have made : makeAccess [.operand target, .token dot, .token name] =
      some (.operand (.field target name.text name.span.stop)) := by
    simp only [makeAccess, isDot]
  refine ⟨_, made, _, rfl, fun frames hosts => (reads.arrives_target hosts).andThen ?_⟩
  rintro _ rfl
  exact arrives_cons (.complete (.member isDot))
    (arrives_cons (.member isName) (arrives_nil completed_refl))

theorem settles_index
    (composes : (Form.inTurn [.phrase .access, .token .openBracket, .phrase .expression,
      .token .closeBracket]).Composes Phrase.ReadAs tokens parts) :
    Phrase.access.Settles tokens parts := by
  obtain ⟨_, _, _, _, rfl, rfl, ⟨target, rfl, reads⟩, keyed⟩ := composes.of_phrase_followedBy
  obtain ⟨opening, _, _, rfl, rfl, opens, _, inner⟩ := keyed.of_token_followedBy
  obtain ⟨_, _, _, _, rfl, rfl, ⟨key, rfl, keyReads⟩, closed⟩ := inner.of_phrase_followedBy
  obtain ⟨closing, rfl, rfl, closes, _⟩ := closed.of_token
  refine ⟨_, rfl, _, rfl, fun frames hosts => (reads.arrives_target hosts).andThen ?_⟩
  rintro _ rfl
  refine arrives_cons (.complete (.index opens)) ?_
  exact keyReads.arrives_closing rfl rfl (.index closes) (arrives_nil completed_refl)

theorem settles_call
    (composes : (Form.followedBy (.phrase .access) .parenthesised).Composes Phrase.ReadAs
      tokens parts) :
    Phrase.access.Settles tokens parts := by
  obtain ⟨_, _, _, callParts, rfl, rfl, ⟨callee, rfl, reads⟩, applied⟩ :=
    composes.of_phrase_followedBy
  obtain ⟨opening, closing, others, operands, rfl, opens, called, shape⟩ :=
    readAsCall_parenthesised applied
  have made : makeAccess (.operand callee :: callParts) =
      some (.operand (.call callee operands closing.span.stop)) := by
    rcases shape with ⟨rfl, rfl⟩ | rfl
    · simp only [makeAccess, opens]
    · rfl
  refine ⟨_, made, _, rfl, fun frames hosts => (reads.arrives_target hosts).andThen ?_⟩
  rintro _ rfl
  refine arrives_cons (.complete (.call opens)) ((called frames (.value callee)).mono ?_)
  rintro _ rfl
  exact completed_refl

theorem settles_method
    (composes : (Form.inTurn [.phrase .access, .token .colon, .token .name,
      .parenthesised]).Composes Phrase.ReadAs tokens parts) :
    Phrase.access.Settles tokens parts := by
  obtain ⟨_, _, _, _, rfl, rfl, ⟨target, rfl, reads⟩, named⟩ := composes.of_phrase_followedBy
  obtain ⟨colon, _, _, rfl, rfl, isColon, _, named⟩ := named.of_token_followedBy
  obtain ⟨name, _, callParts, rfl, rfl, isName, _, applied⟩ := named.of_token_followedBy
  obtain ⟨opening, closing, others, operands, rfl, opens, called, shape⟩ :=
    readAsCall_parenthesised applied
  have made : makeAccess (.operand target :: .token colon :: .token name :: callParts) =
      some (.operand (.method target name.text operands closing.span.stop)) := by
    rcases shape with ⟨rfl, rfl⟩ | rfl <;> rfl
  refine ⟨_, made, _, rfl, fun frames hosts => (reads.arrives_target hosts).andThen ?_⟩
  rintro _ rfl
  refine arrives_cons (.complete (.method isColon)) (arrives_cons (.methodName isName) ?_)
  refine arrives_cons (.methodCall opens) ((called frames (.method target name.text)).mono ?_)
  rintro _ rfl
  exact completed_refl

theorem settles_access (composes : Phrase.access.rule.Composes Phrase.ReadAs tokens parts) :
    Phrase.access.Settles tokens parts := by
  rcases composes.of_either with primary | composes
  · obtain ⟨_, rfl, whole, rfl, reads⟩ := primary.of_phrase
    exact ⟨_, rfl, whole, rfl, reads⟩
  rcases composes.of_either with member | composes
  · exact settles_member member
  rcases composes.of_either with index | composes
  · exact settles_index index
  rcases composes.of_either with call | method
  · exact settles_call call
  · exact settles_method method

theorem settles_primary (composes : Phrase.primary.rule.Composes Phrase.ReadAs tokens parts) :
    Phrase.primary.Settles tokens parts := by
  have single : ∀ terminal, (Form.token terminal).Composes Phrase.ReadAs tokens parts →
      (∀ token : Token, token.terminal = terminal → ∃ whole, token.operand? = some whole) →
        Phrase.primary.Settles tokens parts := by
    intro terminal composes stands
    obtain ⟨token, rfl, rfl, kind, _⟩ := composes.of_token
    obtain ⟨whole, alone⟩ := stands token kind
    have made : makePrimary [.token token] = some (.operand whole) := by
      rw [makePrimary, alone, Option.map_some]
    exact ⟨_, made, whole, rfl, readAsOperand_single alone⟩
  rcases composes.of_either with name | composes
  · exact single .name name fun token kind => ⟨_, by rw [Token.operand?, kind]⟩
  rcases composes.of_either with number | composes
  · exact single .number number fun token kind => ⟨_, by rw [Token.operand?, kind]⟩
  rcases composes.of_either with string | composes
  · exact single .string string fun token kind => ⟨_, by rw [Token.operand?, kind]⟩
  rcases composes.of_either with nilWord | composes
  · exact single .nilWord nilWord fun token kind => ⟨_, by rw [Token.operand?, kind]⟩
  rcases composes.of_either with trueWord | composes
  · exact single .trueWord trueWord fun token kind => ⟨_, by rw [Token.operand?, kind]⟩
  rcases composes.of_either with falseWord | composes
  · exact single .falseWord falseWord fun token kind => ⟨_, by rw [Token.operand?, kind]⟩
  rcases composes.of_either with group | table
  · obtain ⟨opening, _, _, rfl, rfl, opens, _, inner⟩ := group.of_token_followedBy
    obtain ⟨_, _, _, _, rfl, rfl, ⟨whole, rfl, reads⟩, closed⟩ := inner.of_phrase_followedBy
    obtain ⟨closing, rfl, rfl, closes, _⟩ := closed.of_token
    exact ⟨_, rfl, _, rfl, readAsOperand_group opens reads closes⟩
  · obtain ⟨_, rfl, whole, rfl, reads⟩ := table.of_phrase
    exact ⟨_, rfl, whole, rfl, reads⟩

/-! ### Tables -/

/-- A token that closes the innermost construct behind an operand or a name. -/
theorem Offers.arrives_closing
    (offers : Offers opened last progress)
    (closed : close opened last = (outer, whole))
    (closes : Closes token outer whole further)
    (arrives : Arrives Holds tokens further) :
    Arrives Holds (token :: tokens) progress := by
  have continues : Continues opened last token further := by
    refine .closing ?_
    rw [closed]
    exact closes
  rcases offers with rfl | ⟨name, rfl⟩
  · exact arrives_cons (.complete continues) arrives
  · exact arrives_cons (.fieldName continues) arrives

/-- What begins an operand begins a table field, which may then have a name. -/
theorem readAsEntry_positional (reads : ReadAsOperand 0 tokens whole) :
    ReadAsEntry tokens ⟨.positional, whole⟩ := by
  intro frames
  have arrives := reads (.entry .positional :: frames) (hosts_of_admitsChoice rfl)
  have entering : ∀ between, Completed 0 (.entry .positional :: frames) whole between →
      Entering frames ⟨.positional, whole⟩ between := by
    rintro _ ⟨opened, last, rfl, stands⟩
    exact ⟨opened, last, Or.inl rfl, stands.closes⟩
  cases tokens with
  | nil =>
      obtain ⟨_, done, _, _, impossible, _⟩ := arrives
      cases done
      cases impossible
  | cons token tokens =>
      obtain ⟨between, moves, arrives⟩ := arrives.of_cons
      cases moves with
      | operand begins =>
          by_cases kind : token.terminal = .name
          · have alone : token.operand? = some (.leaf (.name token.span token.text)) := by
              rw [Token.operand?, kind]
            have begun := stepOperand_of_begins begins
            rw [stepOperand_of_begins (.single alone)] at begun
            cases begun
            -- The name is an operand as soon as another token than its equals sign follows.
            refine arrives_cons (.named kind) ?_
            cases tokens with
            | nil =>
                obtain ⟨_, done, opened, last, point, stands⟩ := arrives
                cases done
                cases point
                exact arrives_nil ⟨_, _, Or.inr ⟨_, rfl⟩, stands.closes⟩
            | cons next tokens =>
                obtain ⟨further, moves, arrives⟩ := arrives.of_cons
                cases moves with
                | complete continues =>
                    exact arrives_cons (.fieldName continues) (arrives.mono entering)
          · exact arrives_cons (.positional kind begins) (arrives.mono entering)

theorem settles_field (composes : Phrase.field.rule.Composes Phrase.ReadAs tokens parts) :
    Phrase.field.Settles tokens parts := by
  rcases composes.of_either with keyed | composes
  · obtain ⟨opening, _, _, rfl, rfl, opens, _, inner⟩ := keyed.of_token_followedBy
    obtain ⟨front, _, _, _, rfl, rfl, ⟨key, rfl, keyReads⟩, closed⟩ := inner.of_phrase_followedBy
    obtain ⟨closing, _, _, rfl, rfl, closes, _, assigned⟩ := closed.of_token_followedBy
    obtain ⟨equals, _, _, rfl, rfl, isEquals, _, assigned⟩ := assigned.of_token_followedBy
    obtain ⟨_, rfl, value, rfl, reads⟩ := assigned.of_phrase
    refine ⟨_, rfl, _, rfl, fun frames => arrives_cons (.keyed opens) ?_⟩
    refine keyReads.arrives_closing rfl rfl (.key closes) (arrives_cons (.keyValue isEquals) ?_)
    refine (reads _ (hosts_of_admitsChoice rfl)).mono ?_
    rintro _ ⟨opened, last, rfl, stands⟩
    exact ⟨opened, last, Or.inl rfl, stands.closes⟩
  rcases composes.of_either with named | positional
  · obtain ⟨name, _, _, rfl, rfl, isName, _, assigned⟩ := named.of_token_followedBy
    obtain ⟨equals, _, _, rfl, rfl, isEquals, _, assigned⟩ := assigned.of_token_followedBy
    obtain ⟨_, rfl, value, rfl, reads⟩ := assigned.of_phrase
    refine ⟨_, rfl, _, rfl, fun frames => arrives_cons (.named isName) ?_⟩
    refine arrives_cons (.nameField isEquals) ?_
    refine (reads _ (hosts_of_admitsChoice rfl)).mono ?_
    rintro _ ⟨opened, last, rfl, stands⟩
    exact ⟨opened, last, Or.inl rfl, stands.closes⟩
  · obtain ⟨_, rfl, value, rfl, reads⟩ := positional.of_phrase
    exact ⟨_, rfl, _, rfl, readAsEntry_positional reads⟩

/-- The point behind a table field, with all fields so far. -/
def Collecting (frames : List Frame) (column : Nat) (entries : List Entry)
    (progress : Progress) : Prop :=
  ∃ done entry, Entering (.table column done :: frames) entry progress ∧
    (entry :: done).reverse = entries

theorem arrives_fields
    {column : Nat}
    {entries : List Entry}
    (composes : (Form.many (.followedBy .fieldSeparator (.phrase .field))).Composes
      Phrase.ReadAs tokens parts)
    (collecting : Collecting frames column entries progress) :
    Arrives (Collecting frames column (entries ++ parts.filterMap Part.entry?)) tokens
      progress := by
  generalize isMany : Form.many (.followedBy .fieldSeparator (.phrase .field)) = form at composes
  induction composes generalizing entries progress with
  | stop =>
      rw [List.filterMap_nil, List.append_nil]
      exact arrives_nil collecting
  | again composes _ _ ih =>
      cases isMany
      cases composes with
      | followedBy separates item =>
          obtain ⟨separator, rfl, rfl, kind⟩ := separates.of_fieldSeparator
          obtain ⟨_, rfl, next, rfl, reads⟩ := item.of_phrase
          obtain ⟨done, entry, ⟨opened, last, offers, closed⟩, rfl⟩ := collecting
          refine offers.arrives_closing closed (.nextField kind) ?_
          refine (reads _).andThen fun between entering => ?_
          have collected : Collecting frames column ((entry :: done).reverse ++ [next]) between :=
            ⟨entry :: done, next, entering, by simp⟩
          have arrives := ih collected rfl
          rwa [List.append_assoc] at arrives
  | _ => cases isMany

/-- A separator may stand behind the last field. -/
theorem arrives_tableEnd
    {column : Nat}
    {entries : List Entry}
    (composes : (Form.perhaps .fieldSeparator).Composes Phrase.ReadAs tokens parts)
    (closes : token.terminal = .closeBrace)
    (collecting : Collecting frames column entries progress) :
    Arrives (· = ⟨frames, .complete (.table ⟨column, token.span.stop⟩ entries)⟩)
      (tokens ++ [token]) progress := by
  obtain ⟨done, entry, ⟨opened, last, offers, closed⟩, rfl⟩ := collecting
  rcases composes.of_perhaps with separates | ⟨rfl, rfl⟩
  · obtain ⟨separator, rfl, rfl, kind⟩ := separates.of_fieldSeparator
    exact offers.arrives_closing closed (.nextField kind)
      (arrives_cons (.noField closes) (arrives_nil rfl))
  · exact offers.arrives_closing closed (.lastField closes) (arrives_nil rfl)

theorem settles_table (composes : Phrase.table.rule.Composes Phrase.ReadAs tokens parts) :
    Phrase.table.Settles tokens parts := by
  obtain ⟨opening, _, _, rfl, rfl, opens, _, inner⟩ := composes.of_token_followedBy
  cases inner with
  | followedBy fieldsCompose closingComposes =>
      obtain ⟨closing, rfl, rfl, closes, _⟩ := closingComposes.of_token
      refine ⟨_, makeTable_closed .., _, rfl, fun frames _ => ?_⟩
      refine arrives_cons (.operand (.table opens)) ?_
      rcases fieldsCompose.of_perhaps with fields | ⟨rfl, rfl⟩
      · cases fields with
        | followedBy listed trailing =>
            obtain ⟨front, back, _, others, rfl, rfl, ⟨first, rfl, reads⟩, loop⟩ :=
              listed.of_phrase_followedBy
            rw [List.append_assoc]
            rw [List.append_assoc]
            refine (reads _).andThen fun between entering => ?_
            have begun : Collecting frames opening.span.first [first] between :=
              ⟨[], first, entering, rfl⟩
            refine (arrives_fields loop begun).andThen fun further collecting => ?_
            refine (arrives_tableEnd trailing closes collecting).mono ?_
            rintro _ rfl
            rw [List.filterMap_append, trailing.filterMap_entry?_of_perhaps, List.append_nil]
            exact completed_refl
      · exact arrives_cons (.noField closes) (arrives_nil completed_refl)

/-! ### Choices -/

/-- The point behind the value of a branch, with all branches so far. -/
def Choosing (frames : List Frame) (column : Nat) (branches : List (Operand × Operand))
    (progress : Progress) : Prop :=
  ∃ opened last done condition value,
    progress = ⟨opened, .complete last⟩ ∧
      close opened last = (.consequence column done condition :: frames, value) ∧
        ((condition, value) :: done).reverse = branches

/-- A condition and the value that is chosen where it holds. -/
theorem arrives_branch
    {column : Nat}
    {done : List (Operand × Operand)}
    {condition value : Operand}
    (conditionReads : ReadAsOperand 0 front condition)
    (thenWord : token.terminal = .thenWord)
    (reads : ReadAsOperand 0 back value) :
    Arrives (Choosing frames column ((condition, value) :: done).reverse) (front ++ token :: back)
      ⟨.condition column done :: frames, .operand⟩ := by
  refine conditionReads.arrives_closing rfl rfl (.condition thenWord) ?_
  refine (reads _ (hosts_of_admitsChoice rfl)).mono ?_
  rintro _ ⟨opened, last, rfl, stands⟩
  exact ⟨opened, last, done, condition, value, rfl, stands.closes, rfl⟩

/-- The branches behind the first one. -/
theorem arrives_branches
    (composes : (Form.many (.inTurn [.token .elseifWord, .phrase .expression, .token .thenWord,
      .phrase .expression])).Composes Phrase.ReadAs tokens parts) :
    ∃ branches, parts.filterMap Part.operand? = operandsOf branches ∧
      ∀ {frames column before progress}, Choosing frames column before progress →
        Arrives (Choosing frames column (before ++ branches)) tokens progress := by
  generalize isMany : Form.many (.inTurn [.token .elseifWord, .phrase .expression,
    .token .thenWord, .phrase .expression]) = form at composes
  induction composes with
  | stop =>
      refine ⟨[], rfl, fun choosing => ?_⟩
      rw [List.append_nil]
      exact arrives_nil choosing
  | again composes _ _ ih =>
      cases isMany
      obtain ⟨branches, operands, others⟩ := ih rfl
      obtain ⟨elseif, _, _, rfl, rfl, isElseif, _, branch⟩ := composes.of_token_followedBy
      obtain ⟨_, _, _, _, rfl, rfl, ⟨condition, rfl, conditionReads⟩, chosen⟩ :=
        branch.of_phrase_followedBy
      obtain ⟨thenToken, _, _, rfl, rfl, isThen, _, chosen⟩ := chosen.of_token_followedBy
      obtain ⟨_, rfl, value, rfl, reads⟩ := chosen.of_phrase
      refine ⟨(condition, value) :: branches, ?_, ?_⟩
      · simpa [operandsOf, List.filterMap_cons, Part.operand?] using operands
      · rintro frames column _ _ ⟨opened, last, done, first, firstValue, rfl, closed, rfl⟩
        refine arrives_closing closed (.nextBranch isElseif) ?_
        refine (arrives_branch conditionReads isThen reads).andThen fun between choosing => ?_
        have arrives := others choosing
        rwa [List.reverse_cons, List.append_assoc] at arrives
  | _ => cases isMany

theorem settles_choice (composes : Phrase.choice.rule.Composes Phrase.ReadAs tokens parts) :
    Phrase.choice.Settles tokens parts := by
  obtain ⟨ifToken, _, _, rfl, rfl, isIf, _, fromCondition⟩ := composes.of_token_followedBy
  obtain ⟨front, _, _, _, rfl, rfl, ⟨condition, rfl, conditionReads⟩, fromThen⟩ :=
    fromCondition.of_phrase_followedBy
  obtain ⟨thenToken, _, _, rfl, rfl, isThen, _, fromValue⟩ := fromThen.of_token_followedBy
  obtain ⟨back, _, _, _, rfl, rfl, ⟨value, rfl, reads⟩, fromLoop⟩ :=
    fromValue.of_phrase_followedBy
  cases fromLoop with
  | @followedBy _ _ _ _ loopParts _ loop fromElse =>
      obtain ⟨elseToken, _, _, rfl, rfl, isElse, _, last⟩ := fromElse.of_token_followedBy
      obtain ⟨_, rfl, otherwise, rfl, otherwiseReads⟩ := last.of_phrase
      obtain ⟨branches, operands, others⟩ := arrives_branches loop
      have paired := branchesOf_operandsOf ((condition, value) :: branches) otherwise
      have chosen : (Part.operand condition :: .token thenToken :: .operand value ::
          (loopParts ++ [.token elseToken, .operand otherwise])).filterMap Part.operand? =
            operandsOf ((condition, value) :: branches) ++ [otherwise] := by
        simp [List.filterMap_cons, Part.operand?, operandsOf, operands]
      refine ⟨_, by rw [Phrase.make, makeChoice, chosen, paired, Option.map_some], _, rfl, ?_⟩
      intro frames hosts
      refine arrives_cons (.operand (.choice isIf (hosts.admits rfl))) ?_
      rw [← List.cons_append, ← List.append_assoc]
      refine (arrives_branch conditionReads isThen reads).andThen fun between first => ?_
      refine (others first).andThen ?_
      rintro _ ⟨opened, last, done, finalCondition, finalValue, rfl, closed, chosen⟩
      refine arrives_closing closed (.otherwise isElse) ?_
      refine (otherwiseReads _ (hosts_of_admitsChoice rfl)).mono ?_
      rintro _ ⟨further, final, rfl, stands⟩
      have standing := stands.choice
      rw [chosen] at standing
      exact ⟨further, final, rfl, standing⟩

/-! ### Every rule -/

theorem settles_expression
    (composes : Phrase.expression.rule.Composes Phrase.ReadAs tokens parts) :
    Phrase.expression.Settles tokens parts := by
  rcases composes.of_either with choice | disjunction
  · obtain ⟨_, rfl, whole, rfl, reads⟩ := choice.of_phrase
    exact ⟨_, rfl, whole, rfl, reads⟩
  · obtain ⟨_, rfl, whole, rfl, reads⟩ := disjunction.of_phrase
    exact ⟨_, rfl, whole, rfl, reads.mono (Nat.zero_le _)⟩

/-- The phrases of a rule being read, so is what is made of them. -/
theorem Phrase.settles_rule
    (composes : phrase.rule.Composes Phrase.ReadAs tokens parts) :
    phrase.Settles tokens parts := by
  have separates : ∀ terminal level, terminal.isInfix = true →
      (∀ operator ∈ BinaryOperator.all, operator.terminal = terminal → operator.rank = level) →
        (Form.token terminal).Separates level := by
    intro terminal level between leveled
    refine Form.separates_token between fun operator => leveled operator ?_
    cases operator <;> decide
  cases phrase with
  | expression => exact settles_expression composes
  | choice => exact settles_choice composes
  | disjunction =>
      exact settles_separated rfl rfl (by decide) (separates .orWord 1 rfl (by decide))
        (fun reads => ⟨_, rfl, reads⟩) (fun _ _ reads => reads) composes
  | conjunction =>
      exact settles_separated rfl rfl (by decide) (separates .andWord 2 rfl (by decide))
        (fun reads => ⟨_, rfl, reads⟩) (fun _ _ reads => reads) composes
  | comparison =>
      exact settles_separated rfl rfl (by decide) (separates .comparison 3 rfl (by decide))
        (fun reads => ⟨_, rfl, reads⟩) (fun _ _ reads => reads) composes
  | concatenation =>
      exact settles_separated rfl rfl (by decide) (separates .concat 4 rfl (by decide))
        (fun reads => ⟨_, rfl, reads⟩) (fun _ _ reads => reads) composes
  | sum =>
      have signs := (separates .plus 5 rfl (by decide)).either (separates .minus 5 rfl (by decide))
      exact settles_separated rfl rfl (by decide) signs
        (fun reads => ⟨_, rfl, reads⟩) (fun _ _ reads => reads) composes
  | product =>
      exact settles_separated rfl rfl (by decide) (separates .product 6 rfl (by decide))
        (fun reads => ⟨_, rfl, reads⟩) (fun _ _ reads => reads) composes
  | unary => exact settles_unary composes
  | power => exact settles_power composes
  | access => exact settles_access composes
  | arguments => exact settles_arguments composes
  | primary => exact settles_primary composes
  | table => exact settles_table composes
  | field => exact settles_field composes

/-- Whatever a derivation builds, its tokens are read as. -/
theorem Phrase.Builds.readAs (builds : phrase.Builds tokens part) : phrase.ReadAs tokens part := by
  refine builds.induct fun composes made => ?_
  obtain ⟨_, same, reads⟩ := Phrase.settles_rule composes
  cases made.symm.trans same
  exact reads

/-- What a derivation of an expression builds is what its tokens are read as from the start. -/
theorem Phrase.Builds.exists_reading (builds : Phrase.expression.Builds tokens part) :
    ∃ whole, part = .operand whole ∧
      (tokens.foldlM Progress.step .start).bind Progress.finish? = some whole := by
  obtain ⟨whole, rfl, reads⟩ := builds.readAs
  obtain ⟨_, reading, opened, last, rfl, stands⟩ := reads [] (hosts_of_admitsChoice rfl)
  refine ⟨whole, rfl, ?_⟩
  rw [Progress.start, reading, Option.bind_some, Progress.finish?]
  simp only [stands.closes, close]

end LuauNodes.Expression
