import LuauNodes.Proofs.Expression.Acceptance
import Mathlib.Data.List.Induction

/-!
# Reading written tokens

A text of written tokens with white space between them is read token by token.
What the grammar makes of tokens depends on their columns, which a printer does
not choose; so it is stated for every token that shows the same characters.
-/

namespace LuauNodes.Expression

variable {progress : Progress} {column : Nat} {rest : List Char}

/-! ## The longest match -/

/-- A further kind is chosen if it matches more than the ones before. -/
theorem longestToken?_concat
    (expected : List Terminal)
    (terminal : Terminal)
    (text : List Char) :
    longestToken? (expected ++ [terminal]) text =
      match terminal.matchLength? text, longestToken? expected text with
      | none, best => best
      | some length, none => some (terminal, length)
      | some length, some (chosen, reach) =>
        if reach < length then some (terminal, length) else some (chosen, reach) := by
  rw [longestToken?, List.foldl_append]
  rfl

theorem longestToken?_eq_none
    {text : List Char}
    (silent : ∀ terminal : Terminal, terminal.matchLength? text = none)
    (expected : List Terminal) :
    longestToken? expected text = none := by
  induction expected using List.reverseRecOn with
  | nil => rfl
  | append_singleton expected terminal ih => rw [longestToken?_concat, silent, ih]

/-- The kind of a lexeme is the one that is chosen, wherever it stands among the expected ones. -/
theorem longestToken?_of_isLexeme
    {terminal : Terminal}
    {lexeme : List Char}
    (isLexeme : IsLexeme terminal lexeme)
    (ends : Ends rest)
    {expected : List Terminal}
    (member : terminal ∈ expected) :
    longestToken? expected (lexeme ++ rest) = some (terminal, lexeme.length) := by
  have whole := isLexeme.whole rest ends
  -- Until the kind itself is met, nothing that is chosen is as long.
  have chosen : ∀ expected : List Terminal,
      (terminal ∈ expected →
        longestToken? expected (lexeme ++ rest) = some (terminal, lexeme.length)) ∧
      (terminal ∉ expected → ∀ other length,
        longestToken? expected (lexeme ++ rest) = some (other, length) →
          length < lexeme.length) := by
    intro expected
    induction expected using List.reverseRecOn with
    | nil => exact ⟨fun none => absurd none List.not_mem_nil, fun _ _ _ found => by cases found⟩
    | append_singleton expected other ih =>
        rw [longestToken?_concat]
        by_cases same : other = terminal
        · subst same
          refine ⟨fun _ => ?_, fun absent => absurd List.mem_concat_self absent⟩
          rw [whole]
          by_cases before : other ∈ expected
          · rw [ih.1 before]
            simp
          · cases best : longestToken? expected (lexeme ++ rest) with
            | none => rfl
            | some found =>
                have shorter := ih.2 before found.1 found.2 best
                simp [shorter]
        · have apart : terminal ∈ expected ++ [other] ↔ terminal ∈ expected := by
            simp [Ne.symm same]
          rw [apart]
          cases reach : other.matchLength? (lexeme ++ rest) with
          | none => exact ih
          | some length =>
              have shorter := isLexeme.longest rest ends other length same reach
              constructor
              · intro before
                rw [ih.1 before]
                simp [Nat.le_of_lt shorter]
              · intro absent found foundLength result
                cases best : longestToken? expected (lexeme ++ rest) with
                | none =>
                    rw [best] at result
                    cases result
                    exact shorter
                | some earlier =>
                    have earlierShorter := ih.2 absent earlier.1 earlier.2 best
                    rw [best] at result
                    dsimp only at result
                    split at result <;> cases result
                    · exact shorter
                    · exact earlierShorter
  exact (chosen expected).1 member

/-! ## Columns and gaps -/

theorem readTokens_pending (skipped : List Char) :
    readTokens progress column skipped.length (skipped ++ rest) =
      readTokens progress (skipped.foldl nextColumn column) 0 rest := by
  induction skipped generalizing column with
  | nil => rfl
  | cons c skipped ih =>
      rw [List.length_cons, List.cons_append, readTokens, ih, List.foldl_cons]

theorem readTokens_gap
    {gap : List Char}
    (isGap : IsGap gap) :
    readTokens progress column 0 (gap ++ rest) =
      readTokens progress (gap.foldl nextColumn column) 0 rest := by
  induction gap generalizing column with
  | nil => rfl
  | cons c gap ih =>
      have space : isSpace c = true := isGap c List.mem_cons_self
      have silent : nextToken? progress column (c :: (gap ++ rest)) = none := by
        rw [nextToken?, longestToken?_eq_none fun terminal =>
          matchLength?_of_isSpace space terminal _]
        rfl
      rw [List.cons_append, readTokens, silent]
      dsimp only
      rw [if_pos space, ih fun other member => isGap other (List.mem_cons_of_mem c member),
        List.foldl_cons]

/-! ## Tokens -/

/-- A token has the kind and the characters of a written one. -/
def Token.Shows (token : Token) (piece : Piece) : Prop :=
  token.terminal = piece.terminal ∧ token.lexeme = piece.lexeme

/-- Whatever columns they have, tokens that show some written ones fit one after the other, and
lead to a point with a property. -/
def Yields (Holds : Progress → Prop) : List Piece → Progress → Prop
  | [], progress => Holds progress
  | piece :: rest, progress =>
    ∀ token : Token, token.Shows piece →
      ∃ further, progress.step token = some further ∧ Yields Holds rest further

theorem Yields.andThen
    {Between Holds : Progress → Prop}
    {first rest : List Piece}
    (yields : Yields Between first progress)
    (onward : ∀ between, Between between → Yields Holds rest between) :
    Yields Holds (first ++ rest) progress := by
  induction first generalizing progress with
  | nil => exact onward progress yields
  | cons piece first ih =>
      intro token shows
      rcases yields token shows with ⟨further, stepped, remaining⟩
      exact ⟨further, stepped, ih remaining⟩

theorem Yields.mono
    {Holds Weaker : Progress → Prop}
    {pieces : List Piece}
    (yields : Yields Holds pieces progress)
    (weaken : ∀ further, Holds further → Weaker further) :
    Yields Weaker pieces progress := by
  have whole : Yields Weaker (pieces ++ []) progress := yields.andThen weaken
  rwa [List.append_nil] at whole

theorem readTokens_piece
    {Holds : Progress → Prop}
    {piece : Piece}
    {pieces : List Piece}
    (sane : progress.Sane)
    (ends : Ends rest)
    (yields : Yields Holds (piece :: pieces) progress) :
    ∃ further after, further.Sane ∧ Yields Holds pieces further ∧
      readTokens progress column 0 (piece.lexeme ++ rest) =
        readTokens further after 0 rest := by
  have isLexeme := piece.isLexeme
  let token : Token :=
    ⟨piece.terminal, piece.lexeme, ⟨column, stopColumn column piece.lexeme⟩⟩
  rcases yields token ⟨rfl, rfl⟩ with ⟨further, stepped, onward⟩
  have chosen := longestToken?_of_isLexeme isLexeme ends (mem_expected_of_step sane stepped)
  have found : nextToken? progress column (piece.lexeme ++ rest) = some token := by
    rw [nextToken?, chosen, Option.map_some]
    simp [token]
  cases characters : piece.lexeme with
  | nil => exact absurd characters isLexeme.nonempty
  | cons c others =>
      refine ⟨further, others.foldl nextColumn (nextColumn column c), sane_of_step stepped,
        onward, ?_⟩
      rw [characters, List.cons_append] at found
      rw [List.cons_append, readTokens, found]
      dsimp only
      rw [stepped]
      have pending : token.lexeme.length - 1 = others.length := by simp [token, characters]
      dsimp only
      rw [pending, readTokens_pending]

theorem Trail.ends
    {pieces : List Piece}
    {text : List Char}
    (trail : Trail pieces text) :
    Ends text := by
  cases trail with
  | done isGap =>
      intro c member
      exact isGap c (List.mem_of_mem_head? member)
  | @more gap text piece rest isGap nonempty _ =>
      cases gap with
      | nil => exact absurd rfl nonempty
      | cons c gap => exact .cons (isGap c List.mem_cons_self) _

theorem readTokens_trail
    {Holds : Progress → Prop}
    {pieces : List Piece}
    {text : List Char}
    (trail : Trail pieces text)
    (sane : progress.Sane)
    (yields : Yields Holds pieces progress) :
    ∃ final, readTokens progress column 0 text = .ok final ∧ Holds final := by
  induction trail generalizing progress column with
  | @done gap isGap =>
      have skipped : readTokens progress column 0 (gap ++ []) = .ok progress :=
        readTokens_gap isGap
      rw [List.append_nil] at skipped
      exact ⟨progress, skipped, yields⟩
  | more isGap _ trail ih =>
      rw [readTokens_gap isGap]
      obtain ⟨further, after, saneAfter, onward, reads⟩ :=
        readTokens_piece sane trail.ends yields
      rw [reads]
      exact ih saneAfter onward

/-- A spaced text is read as its tokens. -/
theorem readTokens_spaced
    {Holds : Progress → Prop}
    {pieces : List Piece}
    {text : List Char}
    (spaced : Spaced pieces text)
    (yields : Yields Holds pieces .start) :
    ∃ final, readTokens .start 1 0 text = .ok final ∧ Holds final := by
  cases spaced with
  | mk isGap trail =>
      rw [readTokens_gap isGap]
      obtain ⟨further, after, saneAfter, onward, reads⟩ :=
        readTokens_piece sane_start trail.ends yields
      rw [reads]
      exact readTokens_trail trail saneAfter onward

end LuauNodes.Expression
