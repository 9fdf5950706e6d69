import LuauNodes.Expression.Balance
import LuauNodes.Proofs.Expression.Pieces

/-!
# Brackets of written trees

The scan of brackets and quotes finds no fault in what a printer writes: every
bracket that is written is closed by the printer, and a bracket inside a name, a
number or a string is none to the scan.
-/

namespace LuauNodes.Expression

open LuauNodes.Text

variable {pieces rest : List Piece} {piece : Piece}

/-! ## One character further -/

theorem balanceFault?_inside
    (column : Nat)
    (opened : List (Char × Nat))
    (literal : OpenLiteral)
    (c : Char)
    (rest : List Char) :
    balanceFault? column opened (some literal) (c :: rest) =
      balanceFault? (column + 1) opened (literal.advance c) rest := rfl

theorem balanceFault?_quote
    {c : Char}
    (quoting : isQuote c = true)
    (column : Nat)
    (opened : List (Char × Nat))
    (rest : List Char) :
    balanceFault? column opened none (c :: rest) =
      balanceFault? (column + 1) opened (some ⟨c, column, false⟩) rest := by
  rw [balanceFault?.eq_def]
  simp [quoting]

theorem balanceFault?_opening
    {c closer : Char}
    (pairs : closerOf? c = some closer)
    (column : Nat)
    (opened : List (Char × Nat))
    (rest : List Char) :
    balanceFault? column opened none (c :: rest) =
      balanceFault? (column + 1) ((c, column) :: opened) none rest := by
  have unquoted : isQuote c = false := by
    unfold closerOf? at pairs
    split at pairs <;> cases pairs <;> rfl
  rw [balanceFault?.eq_def]
  simp [unquoted, pairs]

theorem balanceFault?_closing
    {c closer : Char}
    (pairs : closerOf? c = some closer)
    (column place : Nat)
    (opened : List (Char × Nat))
    (rest : List Char) :
    balanceFault? column ((c, place) :: opened) none (closer :: rest) =
      balanceFault? (column + 1) opened none rest := by
  have closing : isQuote closer = false ∧ closerOf? closer = none ∧ isCloser closer = true := by
    unfold closerOf? at pairs
    split at pairs <;> cases pairs <;> decide
  rw [balanceFault?.eq_def]
  simp [closing, pairs]

/-- The characters that the scan looks at outside of string literals. -/
def specials : List Char := ['"', '\'', backQuote, '(', ')', '[', ']', '\x7b', '\x7d']

theorem balanceFault?_plain
    {c : Char}
    (plain : c ∉ specials)
    (column : Nat)
    (opened : List (Char × Nat))
    (rest : List Char) :
    balanceFault? column opened none (c :: rest) =
      balanceFault? (column + 1) opened none rest := by
  simp only [specials, List.mem_cons, List.not_mem_nil, or_false, not_or] at plain
  have unopened : closerOf? c = none := by
    unfold closerOf?
    split <;> simp_all
  rw [balanceFault?.eq_def]
  simp [isQuote, isCloser, unopened, plain]

/-! ## Texts that the scan passes over -/

/-- The scan is behind these characters as it was in front of them. -/
def Passes (characters : List Char) : Prop :=
  ∀ column opened rest, ∃ further,
    balanceFault? column opened none (characters ++ rest) = balanceFault? further opened none rest

theorem passes_nil : Passes [] := fun column _ _ => ⟨column, rfl⟩

theorem Passes.append
    {first second : List Char}
    (firstPasses : Passes first)
    (secondPasses : Passes second) :
    Passes (first ++ second) := by
  intro column opened rest
  rcases firstPasses column opened (second ++ rest) with ⟨between, firstScan⟩
  rcases secondPasses between opened rest with ⟨further, secondScan⟩
  refine ⟨further, ?_⟩
  rw [List.append_assoc, firstScan, secondScan]

theorem passes_of_plain
    {characters : List Char}
    (plain : ∀ c ∈ characters, c ∉ specials) :
    Passes characters := by
  induction characters with
  | nil => exact passes_nil
  | cons c others ih =>
      intro column opened rest
      rw [List.cons_append, balanceFault?_plain (plain c List.mem_cons_self)]
      exact ih (fun other member => plain other (List.mem_cons_of_mem c member)) _ _ _

theorem passes_gap
    {gap : List Char}
    (isGap : IsGap gap) :
    Passes gap := by
  apply passes_of_plain
  intro c member
  rcases (isSpace_iff c).mp (isGap c member) with rfl | rfl | rfl | rfl | rfl <;> decide

theorem passes_enclosed
    {first last : Char}
    (pairs : closerOf? first = some last)
    {inner : List Char}
    (passes : Passes inner) :
    Passes (first :: (inner ++ [last])) := by
  intro column opened rest
  rcases passes (column + 1) ((first, column) :: opened) (last :: rest) with ⟨further, scan⟩
  refine ⟨further + 1, ?_⟩
  rw [List.cons_append, List.append_assoc, List.singleton_append, balanceFault?_opening pairs,
    scan, balanceFault?_closing pairs]

/-! ## Tokens -/

/-- What stands behind an opening quote and closes nothing: backslashes with a character each, and
characters that are neither a backslash nor the quote. -/
inductive Inside (quote : Char) : List Char → Prop where
  | nil : Inside quote []
  | escaped {c : Char} {rest : List Char} (inside : Inside quote rest) :
      Inside quote ('\\' :: c :: rest)
  | plain
      {c : Char}
      {rest : List Char}
      (apart : c ≠ quote)
      (unescaped : c ≠ '\\')
      (inside : Inside quote rest) :
      Inside quote (c :: rest)

/-- The body of a literal closes nothing. -/
theorem IsBody.inside
    {quote : Char}
    {body : List Char}
    (isBody : IsBody quote body) :
    Inside quote body := by
  induction isBody with
  | nil => exact .nil
  | escape _ _ ih => exact .escaped ih
  | plain apart unescaped _ _ ih => exact .plain apart unescaped ih

/-- The scan stays inside a literal as long as nothing closes it. -/
theorem balanceFault?_units
    {quote : Char}
    {body : List Char}
    (inside : Inside quote body)
    (column start : Nat)
    (opened : List (Char × Nat))
    (rest : List Char) :
    balanceFault? column opened (some ⟨quote, start, false⟩) (body ++ rest) =
      balanceFault? (column + body.length) opened (some ⟨quote, start, false⟩) rest := by
  induction inside generalizing column with
  | nil => rfl
  | @escaped c body _ ih =>
      have further : column + ('\\' :: c :: body).length = column + 1 + 1 + body.length := by
        simp only [List.length_cons]
        omega
      rw [further, ← ih (column + 1 + 1)]
      rfl
  | @plain c body apart unescaped _ ih =>
      have further : column + (c :: body).length = column + 1 + body.length := by
        simp only [List.length_cons]
        omega
      rw [further, ← ih (column + 1), List.cons_append, balanceFault?_inside]
      simp [OpenLiteral.advance, apart, unescaped]

/-- The quote behind the body closes a literal. -/
theorem balanceFault?_body
    {quote : Char}
    (unescaped : quote ≠ '\\')
    {body : List Char}
    (inside : Inside quote body)
    (column start : Nat)
    (opened : List (Char × Nat))
    (rest : List Char) :
    balanceFault? column opened (some ⟨quote, start, false⟩) (body ++ quote :: rest) =
      balanceFault? (column + body.length + 1) opened none rest := by
  rw [balanceFault?_units inside, balanceFault?_inside]
  simp [OpenLiteral.advance, unescaped]

theorem ne_backslash_of_isQuote {c : Char} (quoting : isQuote c = true) : c ≠ '\\' := by
  rintro rfl
  cases quoting

theorem passes_string
    {quote : Char}
    {body : List Char}
    (quoting : isQuote quote = true)
    (inside : IsBody quote body) :
    Passes (quote :: (body ++ [quote])) := by
  intro column opened rest
  have scan := balanceFault?_body (ne_backslash_of_isQuote quoting) inside.inside (column + 1)
    column opened rest
  refine ⟨column + 1 + body.length + 1, ?_⟩
  rw [List.cons_append, List.append_assoc, List.singleton_append, balanceFault?_quote quoting,
    scan]

/-- The kinds of tokens that are brackets. -/
def Terminal.brackets : List Terminal :=
  [.openParen, .closeParen, .openBracket, .closeBracket, .openBrace, .closeBrace]

theorem passes_fixed
    {terminal : Terminal}
    {text : String}
    (known : text ∈ terminal.texts)
    (apart : terminal ∉ Terminal.brackets) :
    Passes text.toList := by
  have all : ∀ terminal ∈ Terminal.all, terminal ∉ Terminal.brackets →
      ∀ text ∈ terminal.texts, ∀ c ∈ text.toList, c ∉ specials := by decide +kernel
  exact passes_of_plain (all terminal terminal.mem_all apart text known)

theorem passes_name {name : String} (named : IsName name) : Passes name.toList := by
  apply passes_of_plain
  intro c member special
  have all : ∀ c ∈ specials, isNameChar c = false := by decide
  have plain := isNameChar_of_isName named member
  rw [all c special] at plain
  cases plain

theorem not_mem_specials_of_isDigits
    {base : Nat}
    (small : base ≤ 16)
    {written : List Char}
    (digits : IsDigits base written) :
    ∀ c ∈ written, c ∉ specials := by
  intro c member
  rcases digits.members c member with rfl | digit
  · decide
  · have all : ∀ c ∈ "0123456789abcdef".toList ++ "0123456789ABCDEF".toList, c ∉ specials := by
      decide
    exact all c (mem_hexDigits_of_digitWeight (digit.trans_le small))

theorem passes_numbering
    {value : Nat}
    {written : List Char}
    (numbering : Numbering value written) :
    Passes written := by
  apply passes_of_plain
  cases numbering with
  | decimal digits _ _ => exact not_mem_specials_of_isDigits (by decide) digits
  | hexadecimal marked digits =>
      have plain := not_mem_specials_of_isDigits (Nat.le_refl 16) digits
      rw [List.forall_mem_cons, List.forall_mem_cons]
      refine ⟨by decide, ?_, plain⟩
      rcases marked with rfl | rfl <;> decide
  | binary marked digits =>
      have plain := not_mem_specials_of_isDigits (by decide) digits
      rw [List.forall_mem_cons, List.forall_mem_cons]
      refine ⟨by decide, ?_, plain⟩
      rcases marked with rfl | rfl <;> decide

/-! ## Trees -/

/-- Tokens in which every bracket is closed. -/
inductive Nested : List Piece → Prop where
  | nil : Nested []
  | token {piece : Piece} (passes : Passes piece.lexeme) : Nested [piece]
  | append {first second : List Piece} (firstNested : Nested first) (secondNested : Nested second) :
      Nested (first ++ second)
  | enclosed
      {opening closing : Piece}
      {first last : Char}
      {inner : List Piece}
      (opens : opening.lexeme = [first])
      (closes : closing.lexeme = [last])
      (pairs : closerOf? first = some last)
      (nested : Nested inner) :
      Nested (opening :: (inner ++ [closing]))

theorem Nested.cons
    (passes : Passes piece.lexeme)
    (nested : Nested rest) :
    Nested (piece :: rest) :=
  (Nested.token passes).append nested

theorem Trail.split
    {first second : List Piece}
    {text : List Char}
    (trail : Trail (first ++ second) text) :
    ∃ before after, text = before ++ after ∧ Trail first before ∧ Trail second after := by
  induction first generalizing text with
  | nil => exact ⟨[], text, rfl, .done (by simp [IsGap]), trail⟩
  | cons piece first ih =>
      cases trail with
      | @more gap rest _ _ isGap nonempty trail =>
          rcases ih trail with ⟨before, after, rfl, firstTrail, secondTrail⟩
          refine ⟨gap ++ (piece.lexeme ++ before), after, ?_, .more isGap nonempty firstTrail,
            secondTrail⟩
          simp

theorem Trail.passes_of_nil
    {text : List Char}
    (trail : Trail [] text) :
    Passes text := by
  cases trail with
  | done isGap => exact passes_gap isGap

theorem Nested.passes
    (nested : Nested pieces)
    {text : List Char}
    (trail : Trail pieces text) :
    Passes text := by
  induction nested generalizing text with
  | nil => exact trail.passes_of_nil
  | token passes =>
      cases trail with
      | more isGap _ trail => exact (passes_gap isGap).append (passes.append trail.passes_of_nil)
  | append _ _ firstPasses secondPasses =>
      rcases trail.split with ⟨before, after, rfl, firstTrail, secondTrail⟩
      exact (firstPasses firstTrail).append (secondPasses secondTrail)
  | enclosed opens closes pairs _ innerPasses =>
      cases trail with
      | more isGap _ trail =>
          rcases trail.split with ⟨before, after, rfl, innerTrail, lastTrail⟩
          cases lastTrail with
          | more isGapAfter _ trailing =>
              rw [opens, closes]
              have inner := (innerPasses innerTrail).append (passes_gap isGapAfter)
              have outer := ((passes_gap isGap).append (passes_enclosed pairs inner)).append
                trailing.passes_of_nil
              simpa using outer

theorem nested_name {name : String} (named : IsName name) : Nested [.name name named] :=
  .token (passes_name named)

theorem nested_single
    {terminal : Terminal}
    {text : String}
    {known : text ∈ terminal.texts}
    (apart : terminal ∉ Terminal.brackets) :
    Nested [.fixed terminal text known] :=
  .token (passes_fixed known apart)

theorem nested_fixed
    {terminal : Terminal}
    {text : String}
    {known : text ∈ terminal.texts}
    (apart : terminal ∉ Terminal.brackets)
    (nested : Nested rest) :
    Nested (.fixed terminal text known :: rest) :=
  .cons (passes_fixed known apart) nested

theorem nested_parens
    (nested : Nested pieces) :
    Nested
      (.fixed .openParen "(" (by decide) :: (pieces ++ [.fixed .closeParen ")" (by decide)])) :=
  .enclosed rfl rfl rfl nested

theorem nested_brackets
    (nested : Nested pieces) :
    Nested (.fixed .openBracket "[" (by decide) ::
      (pieces ++ [.fixed .closeBracket "]" (by decide)])) :=
  .enclosed rfl rfl rfl nested

theorem nested_braces
    (nested : Nested pieces) :
    Nested (.fixed .openBrace "\x7b" (by decide) ::
      (pieces ++ [.fixed .closeBrace "\x7d" (by decide)])) :=
  .enclosed rfl rfl rfl nested

mutual

theorem nested_written
    {rank : Nat}
    {tree : Expr}
    {pieces : List Piece}
    (written : Written rank tree pieces) :
    Nested pieces := by
  match written with
  | .bare _ spelled => exact nested_spelled spelled
  | .grouped _ spelled => exact nested_parens (nested_spelled spelled)

theorem nested_spelled
    {tree : Expr}
    {pieces : List Piece}
    (spelled : Spelled tree pieces) :
    Nested pieces := by
  match spelled with
  | .name named => exact nested_name named
  | .number numbering => exact .token (passes_numbering numbering)
  | .string quoting inside => exact .token (passes_string quoting inside)
  | .true => exact nested_single (by decide)
  | .false => exact nested_single (by decide)
  | .nil => exact nested_single (by decide)
  | @Spelled.unary _ operator _ _ written =>
      have leading : operator.terminal ∉ Terminal.brackets := by cases operator <;> decide
      exact nested_fixed leading (nested_written written)
  | @Spelled.binary _ operator _ _ _ _ leftWritten rightWritten =>
      have between : operator.terminal ∉ Terminal.brackets := by cases operator <;> decide
      exact (nested_written leftWritten).append
        (nested_fixed between (nested_written rightWritten))
  | .field written named =>
      exact (nested_written written).append (nested_fixed (by decide) (nested_name named))
  | .index written keyWritten =>
      exact (nested_written written).append (nested_brackets (nested_written keyWritten))
  | .call written argumentsWritten =>
      have behind := nested_parens (nested_writtenArguments argumentsWritten)
      exact (nested_written written).append behind
  | .method written named argumentsWritten =>
      have behind := nested_parens (nested_writtenArguments argumentsWritten)
      exact (nested_written written).append
        (nested_fixed (by decide) ((nested_name named).append behind))
  | .table written => exact nested_braces (nested_writtenFields written)
  | .choice written othersWritten otherwiseWritten =>
      apply nested_fixed (by decide)
      apply (nested_writtenBranch written).append
      apply (nested_writtenBranches othersWritten).append
      exact nested_fixed (by decide) (nested_written otherwiseWritten)

theorem nested_writtenArguments
    {arguments : List Expr}
    {pieces : List Piece}
    (written : WrittenArguments arguments pieces) :
    Nested pieces := by
  match written with
  | .none => exact .nil
  | .some written othersWritten =>
      exact (nested_written written).append (nested_furtherArguments othersWritten)

theorem nested_furtherArguments
    {others : List Expr}
    {pieces : List Piece}
    (written : FurtherArguments others pieces) :
    Nested pieces := by
  match written with
  | .none => exact .nil
  | .some written othersWritten =>
      have behind := (nested_written written).append (nested_furtherArguments othersWritten)
      exact nested_fixed (by decide) behind

theorem nested_writtenField
    {field : TableField}
    {pieces : List Piece}
    (written : WrittenField field pieces) :
    Nested pieces := by
  match written with
  | .keyed keyWritten written =>
      have value : Nested (.fixed .equals "=" (by decide) :: _) :=
        nested_fixed (by decide) (nested_written written)
      have whole := (nested_brackets (nested_written keyWritten)).append value
      rwa [List.cons_append, List.append_assoc, List.singleton_append] at whole
  | .named named written =>
      exact (nested_name named).append (nested_fixed (by decide) (nested_written written))
  | .positional written => exact nested_written written

theorem nested_writtenFields
    {fields : List TableField}
    {pieces : List Piece}
    (written : WrittenFields fields pieces) :
    Nested pieces := by
  match written with
  | .none => exact .nil
  | .last written => exact nested_writtenField written
  | .more written separating othersWritten =>
      have others := nested_writtenFields othersWritten
      apply (nested_writtenField written).append
      rcases separating with rfl | rfl
      · exact nested_fixed (by decide) others
      · exact nested_fixed (by decide) others

theorem nested_writtenBranch
    {branch : Branch}
    {pieces : List Piece}
    (written : WrittenBranch branch pieces) :
    Nested pieces := by
  match written with
  | .mk written valueWritten =>
      exact (nested_written written).append
        (nested_fixed (by decide) (nested_written valueWritten))

theorem nested_writtenBranches
    {branches : List Branch}
    {pieces : List Piece}
    (written : WrittenBranches branches pieces) :
    Nested pieces := by
  match written with
  | .none => exact .nil
  | .some written othersWritten =>
      have behind := (nested_writtenBranch written).append (nested_writtenBranches othersWritten)
      exact nested_fixed (by decide) behind

end

/-- The scan finds no fault in a written text. -/
theorem textBalanceFault?_of_written
    {rank : Nat}
    {tree : Expr}
    (written : Written rank tree pieces)
    {text : List Char}
    (spaced : Spaced pieces text) :
    textBalanceFault? text = none := by
  -- A further space in front makes up the white space that the first token may lack.
  have trail : Trail pieces (' ' :: text) := by
    cases spaced with
    | @mk gap text piece rest isGap trail =>
        have wider : IsGap (' ' :: gap) := List.forall_mem_cons.mpr ⟨rfl, isGap⟩
        exact .more wider (List.cons_ne_nil _ _) trail
  rcases (nested_written written).passes trail 0 [] [] with ⟨further, scan⟩
  rw [List.append_nil, balanceFault?_plain (by decide)] at scan
  rw [textBalanceFault?, scan]
  rfl

end LuauNodes.Expression
