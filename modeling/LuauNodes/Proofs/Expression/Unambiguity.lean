import LuauNodes.Proofs.Expression.ReadingDerivations
import LuauNodes.Proofs.Expression.Sentences

/-!
# The grammar is unambiguous

A word of tokens has a tree exactly if the grammar derives it, and then it has
one tree only: reading is deterministic, and comes to what any derivation
builds.  So it does not matter which derivation a parser finds.
-/

namespace LuauNodes.Expression

open LuauNodes.Text

variable {form : Form} {phrase : Phrase} {tokens : List Token} {parts : List Part} {part : Part}

/-! ## Words with trees -/

/-- A list of tokens that stands for a word of the form. -/
def Form.Spans (form : Form) (tokens : List Token) : Prop :=
  form.Derives (tokens.map Token.terminal) ∧ ∀ token ∈ tokens, token.Fits

theorem Form.Composes.spans
    (composes : form.Composes (fun phrase tokens _ => phrase.rule.Spans tokens) tokens parts) :
    form.Spans tokens := by
  induction composes with
  | nothing => exact ⟨.nothing, by simp⟩
  | token kind fits => exact ⟨kind ▸ .token, by simpa using fits⟩
  | phrase spans => exact ⟨.phrase spans.1, spans.2⟩
  | followedBy _ _ front back =>
      rw [Spans, List.map_append, List.forall_mem_append]
      exact ⟨.followedBy front.1 back.1, front.2, back.2⟩
  | left _ spans => exact ⟨.left spans.1, spans.2⟩
  | right _ spans => exact ⟨.right spans.1, spans.2⟩
  | stop => exact ⟨.stop, by simp⟩
  | again _ _ front back =>
      rw [Spans, List.map_append, List.forall_mem_append]
      exact ⟨.again front.1 back.1, front.2, back.2⟩

theorem Phrase.Builds.spans (builds : phrase.Builds tokens part) :
    (Form.phrase phrase).Spans tokens := by
  have spans : phrase.rule.Spans tokens :=
    builds.induct fun composes _ => composes.spans
  exact ⟨.phrase spans.1, spans.2⟩

/-- Every derivation composes parts, as every rule makes one part of its own. -/
theorem Form.Derives.exists_composes
    {word : List Terminal}
    (derives : form.Derives word)
    (same : tokens.map Token.terminal = word)
    (fits : ∀ token ∈ tokens, token.Fits) :
    ∃ parts, form.Composes Phrase.Builds tokens parts := by
  induction derives generalizing tokens with
  | nothing =>
      obtain rfl := List.map_eq_nil_iff.mp same
      exact ⟨_, .nothing⟩
  | token =>
      obtain ⟨token, rfl, kind⟩ := List.map_eq_singleton_iff.mp same
      exact ⟨_, .token kind (fits token List.mem_cons_self)⟩
  | phrase _ ih =>
      obtain ⟨parts, composes⟩ := ih same fits
      have reads := composes.mono fun _ _ _ builds => builds.readAs
      obtain ⟨part, made, _⟩ := Phrase.settles_rule reads
      exact ⟨_, .phrase (.rule composes made)⟩
  | followedBy _ _ firstIh secondIh =>
      obtain ⟨front, back, rfl, rfl, rfl⟩ := List.map_eq_append_iff.mp same
      rw [List.forall_mem_append] at fits
      obtain ⟨_, first⟩ := firstIh rfl fits.1
      obtain ⟨_, second⟩ := secondIh rfl fits.2
      exact ⟨_, .followedBy first second⟩
  | left _ ih =>
      obtain ⟨_, composes⟩ := ih same fits
      exact ⟨_, .left composes⟩
  | right _ ih =>
      obtain ⟨_, composes⟩ := ih same fits
      exact ⟨_, .right composes⟩
  | stop =>
      obtain rfl := List.map_eq_nil_iff.mp same
      exact ⟨_, .stop⟩
  | again _ _ ih othersIh =>
      obtain ⟨front, back, rfl, rfl, rfl⟩ := List.map_eq_append_iff.mp same
      rw [List.forall_mem_append] at fits
      obtain ⟨_, composes⟩ := ih rfl fits.1
      obtain ⟨_, others⟩ := othersIh rfl fits.2
      exact ⟨_, .again composes others⟩

theorem Form.Spans.exists_builds (spans : (Form.phrase phrase).Spans tokens) :
    ∃ part, phrase.Builds tokens part := by
  obtain ⟨_, composes⟩ := spans.1.exists_composes rfl spans.2
  obtain ⟨part, _, builds⟩ := composes.of_phrase
  exact ⟨part, builds⟩

/-! ## One tree -/

/-- The derivations of an expression from tokens never build two trees; some build one exactly if
the grammar derives the tokens, and it is what the tokens are read as. -/
theorem expression_unambiguous (tokens : List Token) :
    (∀ first second, Phrase.expression.Builds tokens first →
      Phrase.expression.Builds tokens second → first = second) ∧
    ((∃! part, Phrase.expression.Builds tokens part) ↔ (Form.phrase .expression).Spans tokens) ∧
    ∀ part, Phrase.expression.Builds tokens part →
      ∃ whole, part = .operand whole ∧
        (tokens.foldlM Progress.step .start).bind Progress.finish? = some whole := by
  have same : ∀ first second, Phrase.expression.Builds tokens first →
      Phrase.expression.Builds tokens second → first = second := by
    intro first second firstBuilds secondBuilds
    obtain ⟨whole, rfl, reading⟩ := firstBuilds.exists_reading
    obtain ⟨other, rfl, otherReading⟩ := secondBuilds.exists_reading
    cases reading.symm.trans otherReading
    rfl
  refine ⟨same, ⟨?_, fun spans => ?_⟩, fun part builds => builds.exists_reading⟩
  · rintro ⟨_, builds, _⟩
    exact builds.spans
  · obtain ⟨part, builds⟩ := spans.exists_builds
    exact ⟨part, builds, fun other otherBuilds => same other part otherBuilds builds⟩

/-- Tokens in a row, one column each. -/
def inRow (lexemes : List (Terminal × String)) : List Token :=
  lexemes.zipIdx.map fun (lexeme, column) =>
    ⟨lexeme.1, lexeme.2.toList, ⟨column, column + 1⟩⟩

/-- A choice between a call and a table with a separator behind its field; its condition has signs
in front of a base and in an exponent. -/
def signedChoice : List Token :=
  inRow
    [(.ifWord, "if"), (.minus, "-"), (.name, "a"), (.power, "^"), (.minus, "-"), (.name, "b"),
     (.thenWord, "then"), (.name, "f"), (.openParen, "("), (.name, "c"), (.closeParen, ")"),
     (.elseWord, "else"), (.openBrace, "\x7b"), (.name, "d"), (.semicolon, ";"),
     (.closeBrace, "\x7d")]

theorem signedChoice_fits : ∀ token ∈ signedChoice, token.Fits := by
  have name : ∀ c ∈ ['a', 'b', 'c', 'd', 'f'], Pattern.identifier.Fits [c] [] := by
    intro c member
    have free : (!reservedWords.any fun word => beginsWithWord word [c]) = true := by
      revert c
      decide +kernel
    have starts : isNameStart c = true := by
      revert c
      decide
    exact .followedBy (.ahead free) (.followedBy (.one starts) .stop)
  have word : ∀ text : String, (Pattern.keyword text).Fits text.toList [] := by
    intro text
    rw [← List.append_nil text.toList]
    exact .followedBy .exactly (.ahead rfl)
  simp only [signedChoice, inRow, List.zipIdx_cons, List.zipIdx_nil, List.map_cons, List.map_nil,
    List.forall_mem_cons]
  exact
    ⟨⟨[], word "if"⟩, ⟨[], .exactly⟩, ⟨[], name 'a' (by decide)⟩, ⟨[], .exactly⟩, ⟨[], .exactly⟩,
      ⟨[], name 'b' (by decide)⟩, ⟨[], word "then"⟩, ⟨[], name 'f' (by decide)⟩, ⟨[], .exactly⟩,
      ⟨[], name 'c' (by decide)⟩, ⟨[], .exactly⟩, ⟨[], word "else"⟩, ⟨[], .exactly⟩,
      ⟨[], name 'd' (by decide)⟩, ⟨[], .exactly⟩, ⟨[], .exactly⟩, fun _ none => by cases none⟩

theorem signedChoice_spans : (Form.phrase .expression).Spans signedChoice := by
  have name : (Form.phrase .access).Derives [.name] := .phrase (.left (.phrase (.left .token)))
  have operand : (Form.phrase .expression).Derives [.name] := derives_expression name
  have negated : (Form.phrase .unary).Derives [.minus, .name] :=
    .phrase (.right (.left (.followedBy .token (derives_unary name))))
  have power : (Form.phrase .power).Derives [.name, .power, .minus, .name] :=
    .phrase (.followedBy name (.left (.followedBy .token negated)))
  have condition : (Form.phrase .expression).Derives [.minus, .name, .power, .minus, .name] :=
    derives_expression_of_unary (.phrase (.right (.left
      (.followedBy .token (.phrase (.right (.right (.right power))))))))
  have argument : (Form.phrase .arguments).Derives [.name] := .phrase (derives_separated operand)
  have call : (Form.phrase .expression).Derives [.name, .openParen, .name, .closeParen] :=
    derives_expression (.phrase (.right (.right (.right (.left (.followedBy name
      (.followedBy .token (.followedBy (.left argument) .token))))))))
  have table : (Form.phrase .expression).Derives [.openBrace, .name, .semicolon, .closeBrace] := by
    have fields : (Form.separated .field .fieldSeparator).Derives [.name] :=
      derives_separated (.phrase (.right (.right operand)))
    have whole : (Form.phrase .table).Derives [.openBrace, .name, .semicolon, .closeBrace] :=
      .phrase (.followedBy .token (.followedBy
        (.left (.followedBy fields (.left (.right .token)))) .token))
    exact derives_expression (.phrase (.left (.phrase
      (.right (.right (.right (.right (.right (.right (.right whole))))))))))
  refine ⟨?_, signedChoice_fits⟩
  exact .phrase (.left (.phrase (.followedBy .token (.followedBy condition (.followedBy .token
    (.followedBy call (.followedBy .stop (.followedBy .token table))))))))

theorem expression_unambiguous_signedChoice :
    ∃ whole,
      (∀ part, Phrase.expression.Builds signedChoice part ↔ part = .operand whole) ∧
      whole.tree =
        .choice ⟨0, 16⟩
          [.mk
            (.unary ⟨1, 6⟩ .negate
              (.binary ⟨2, 6⟩ .power (.name ⟨2, 3⟩ "a")
                (.unary ⟨4, 6⟩ .negate (.name ⟨5, 6⟩ "b"))))
            (.call ⟨7, 11⟩ (.name ⟨7, 8⟩ "f") [.name ⟨9, 10⟩ "c"])]
          (.table ⟨12, 16⟩ [.positional (.name ⟨13, 14⟩ "d")]) := by
  obtain ⟨same, derived, reads⟩ := expression_unambiguous signedChoice
  obtain ⟨part, builds, _⟩ := derived.mpr signedChoice_spans
  obtain ⟨whole, rfl, reading⟩ := reads part builds
  refine ⟨whole, fun other => ⟨fun otherBuilds => same _ _ otherBuilds builds, ?_⟩, ?_⟩
  · rintro rfl
    exact builds
  · have tree : ((signedChoice.foldlM Progress.step .start).bind Progress.finish?).map
        Operand.tree = some _ := rfl
    rw [reading] at tree
    exact Option.some.inj tree

end LuauNodes.Expression
