import LuauNodes.Proofs.Expression.Lexemes
import Mathlib.Data.List.TakeWhile

/-!
# Written tokens are lexemes

Every token that a printer writes is matched whole in front of white space, by
its own terminal alone.  Punctuation, operators and keywords are checked one by
one; names, numbers and strings are told apart by their first characters.
-/

namespace LuauNodes.Expression

open LuauNodes.Text

/-! ## Fixed texts -/

/-- Every terminal. -/
def Terminal.all : List Terminal :=
  [.name, .number, .string, .openParen, .closeParen, .openBracket, .closeBracket, .openBrace,
   .closeBrace, .comma, .semicolon, .dot, .colon, .equals, .comparison, .concat, .plus, .minus,
   .product, .power, .hash, .andWord, .orWord, .notWord, .nilWord, .trueWord, .falseWord, .ifWord,
   .thenWord, .elseWord, .elseifWord]

theorem Terminal.mem_all (terminal : Terminal) : terminal ∈ Terminal.all := by
  cases terminal <;> decide

/-- Of the other terminals none matches as much of a text. -/
def winsAlone (terminal : Terminal) (text : List Char) : Bool :=
  Terminal.all.all fun other =>
    other == terminal || (other.matchLength? text).all fun length => length < text.length

theorem texts_stand_alone :
    ∀ terminal ∈ Terminal.all, ∀ text ∈ terminal.texts,
      text.toList ≠ [] ∧ beginsNumber text.toList = false ∧ beginsString text.toList = false ∧
        terminal.matchLength? text.toList = some text.toList.length ∧
        winsAlone terminal text.toList = true := by
  decide +kernel

theorem isLexeme_fixed
    {terminal : Terminal}
    {text : String}
    (known : text ∈ terminal.texts) :
    IsLexeme terminal text.toList := by
  obtain ⟨nonempty, numberless, stringless, whole, wins⟩ :=
    texts_stand_alone terminal terminal.mem_all text known
  apply isLexeme_of_alone nonempty numberless stringless whole
  intro other length apart found
  have loses := List.all_eq_true.mp wins other other.mem_all
  simpa [apart, found] using loses

/-- What one terminal matches whole and no other one begins is a lexeme. -/
theorem isLexeme_of_opens
    {terminal : Terminal}
    {first : Char}
    {others : List Char}
    (closed : ∀ other ∈ Terminal.all, other ≠ terminal → other.opens first = false)
    (whole : ∀ rest, Ends rest →
      terminal.matchLength? (first :: others ++ rest) = some (others.length + 1)) :
    IsLexeme terminal (first :: others) where
  nonempty := List.cons_ne_nil first others
  whole := whole
  longest := by
    intro rest _ other length apart found
    have opened := opens_of_matchLength? found
    rw [closed other other.mem_all apart] at opened
    cases opened

/-! ## Names -/

theorem isDigit_iff_of_ascii {c : Char} (ascii : c.toNat < 0x660) :
    isDigit c = true ↔ 48 ≤ c.toNat ∧ c.toNat < 58 := by
  have zeros : ∀ start ∈ digitZeros, start = 48 ∨ 0x660 ≤ start := by decide
  rw [isDigit, digitValue?, Option.isSome_map, List.find?_isSome]
  constructor
  · rintro ⟨start, member, range⟩
    simp only [Bool.and_eq_true, decide_eq_true_eq] at range
    rcases zeros start member with rfl | large
    · exact range
    · omega
  · intro range
    exact ⟨48, by decide, by simpa using range⟩

theorem ascii_of_isNameStart {c : Char} (start : isNameStart c = true) :
    c.toNat = 95 ∨ (65 ≤ c.toNat ∧ c.toNat ≤ 90) ∨ (97 ≤ c.toNat ∧ c.toNat ≤ 122) := by
  rw [isNameStart, Bool.or_eq_true, beq_iff_eq] at start
  rcases start with rfl | letter
  · exact Or.inl rfl
  · have cased : (c.isUpper || c.isLower) = true := letter
    rw [Bool.or_eq_true] at cased
    rcases cased with upper | lower
    · have range : 'A'.val ≤ c.val ∧ c.val ≤ 'Z'.val := of_decide_eq_true upper
      exact Or.inr (Or.inl range)
    · have range : (decide ('a'.val ≤ c.val) && decide (c.val ≤ 'z'.val)) = true := lower
      rw [Bool.and_eq_true, decide_eq_true_eq, decide_eq_true_eq] at range
      exact Or.inr (Or.inr range)

theorem isNameChar_of_isNameStart {c : Char} (start : isNameStart c = true) :
    isNameChar c = true := by
  rw [isNameStart, Bool.or_eq_true] at start
  rw [isNameChar, Bool.or_eq_true]
  rcases start with underscore | letter
  · exact Or.inl underscore
  · exact Or.inr (by simp [Char.isAlphanum, letter])

theorem isNameChar_of_isName
    {name : String}
    (named : IsName name)
    {c : Char}
    (member : c ∈ name.toList) :
    isNameChar c = true := by
  have form := named.1
  cases characters : name.toList with
  | nil =>
      rw [characters] at member
      cases member
  | cons first others =>
      rw [characters, isPlainIdentifier, Bool.and_eq_true, List.all_eq_true] at form
      rw [characters] at member
      rcases List.mem_cons.mp member with here | further
      · exact here ▸ isNameChar_of_isNameStart form.1
      · exact form.2 c further

/-- No reserved word ends within a name that is none. -/
theorem not_beginsWithWord_of_isName
    {name : String}
    (named : IsName name)
    {word : String}
    (reserved : word ∈ reservedWords) :
    beginsWithWord word name.toList = false := by
  rw [beginsWithWord]
  cases begins : word.toList.isPrefixOf name.toList with
  | false => rfl
  | true =>
      rcases List.isPrefixOf_iff_prefix.mp begins with ⟨after, split⟩
      have behind : name.toList.drop word.length = after := by
        rw [← split]
        exact List.drop_left
      rw [behind]
      cases after with
      | nil =>
          rw [List.append_nil] at split
          have same : word = name := String.toList_inj.mp split
          have free := named.2
          rw [isReserved, ← same, List.contains_eq_mem, decide_eq_false_iff_not] at free
          exact absurd reserved free
      | cons next others =>
          have member : next ∈ name.toList := by
            rw [← split]
            exact List.mem_append_right _ List.mem_cons_self
          simp [isWordChar_of_isNameChar next (isNameChar_of_isName named member)]

/-- No token of punctuation begins like a name. -/
theorem not_isNameStart_of_texts :
    ∀ terminal ∈ [Terminal.openParen, .closeParen, .openBracket, .closeBracket, .openBrace,
        .closeBrace, .comma, .semicolon, .dot, .colon, .equals, .comparison, .concat, .plus,
        .minus, .product, .power, .hash],
      ∀ text ∈ terminal.texts, text.toList.head?.any isNameStart = false := by
  decide

theorem isLexeme_name {name : String} (named : IsName name) : IsLexeme .name name.toList := by
  have form := named.1
  cases characters : name.toList with
  | nil =>
      rw [characters, isPlainIdentifier] at form
      cases form
  | cons first others =>
      rw [characters, isPlainIdentifier, Bool.and_eq_true, List.all_eq_true] at form
      rcases form with ⟨start, following⟩
      have wordless : ∀ word ∈ reservedWords, beginsWithWord word (first :: others) = false := by
        intro word reserved
        rw [← characters]
        exact not_beginsWithWord_of_isName named reserved
      have range := ascii_of_isNameStart start
      have numberless : beginsNumber (first :: others) = false := by
        have notDigit : isDigit first = false := by
          rw [← Bool.not_eq_true, isDigit_iff_of_ascii (by omega)]
          omega
        rw [beginsNumber]
        · exact notDigit
        · rintro c after rfl
          cases start
      have stringless : beginsString (first :: others) = false := by
        rw [beginsString, ← Bool.not_eq_true]
        intro quote
        simp only [isQuote, Bool.or_eq_true, beq_iff_eq] at quote
        rcases quote with (rfl | rfl) | rfl <;> cases start
      have reservedless :
          (reservedWords.any fun word => beginsWithWord word (first :: others)) = false := by
        rw [List.any_eq_false]
        intro word reserved
        rw [wordless word reserved]
        exact Bool.false_ne_true
      apply isLexeme_of_alone (List.cons_ne_nil first others) numberless stringless
      · have all : others.takeWhile isNameChar = others :=
          List.takeWhile_eq_self_iff.mpr following
        rw [Terminal.matchLength?, nameLength?, reservedless, start, all]
        simp [Nat.add_comm]
      · intro other length apart found
        cases other
        case name => exact absurd rfl apart
        case number =>
            rw [Terminal.matchLength?, numberLength?_eq_none numberless] at found
            cases found
        case string =>
            rw [Terminal.matchLength?, stringLength?_eq_none stringless] at found
            cases found
        case andWord | orWord | notWord | nilWord | trueWord | falseWord | ifWord | thenWord
            | elseWord | elseifWord =>
          rw [Terminal.matchLength?, wordLength?, wordless _ (by decide)] at found
          cases found
        -- No other token begins with a character that begins a name.
        all_goals
          obtain ⟨text, member, opened⟩ :=
            List.any_eq_true.mp (opens_of_matchLength? found)
          have other := not_isNameStart_of_texts _ (by decide) text member
          rw [beq_iff_eq.mp opened, Option.any_some, start] at other
          cases other

/-! ## Numbers -/

theorem mem_hexDigits_of_digitWeight {c : Char} (digit : digitWeight c < 16) :
    c ∈ "0123456789abcdef".toList ++ "0123456789ABCDEF".toList := by
  rw [digitWeight, min_lt_iff] at digit
  rw [List.mem_append]
  rcases digit with lower | upper
  · exact Or.inl (List.idxOf_lt_length_iff.mp lower)
  · exact Or.inr (List.idxOf_lt_length_iff.mp upper)

theorem hexValue?_of_digitWeight {c : Char} (digit : digitWeight c < 16) :
    hexValue? c = some (digitWeight c) := by
  have all : ∀ c ∈ "0123456789abcdef".toList ++ "0123456789ABCDEF".toList,
      hexValue? c = some (digitWeight c) := by decide
  exact all c (mem_hexDigits_of_digitWeight digit)

theorem mem_decimals_of_digitWeight {c : Char} (digit : digitWeight c < 10) :
    c ∈ "0123456789".toList := by
  have all : ∀ c ∈ "0123456789abcdef".toList ++ "0123456789ABCDEF".toList,
      digitWeight c < 10 → c ∈ "0123456789".toList := by decide
  exact all c (mem_hexDigits_of_digitWeight (by omega)) digit

theorem digitValue?_of_digitWeight {c : Char} (digit : digitWeight c < 10) :
    digitValue? c = some (digitWeight c) := by
  have all : ∀ c ∈ "0123456789".toList, digitValue? c = some (digitWeight c) := by decide
  exact all c (mem_decimals_of_digitWeight digit)

theorem isDigit_of_digitWeight {c : Char} (digit : digitWeight c < 10) : isDigit c = true := by
  rw [isDigit, digitValue?_of_digitWeight digit]
  rfl

theorem eq_or_eq_of_digitWeight {c : Char} (digit : digitWeight c < 2) : c = '0' ∨ c = '1' := by
  have all : ∀ c ∈ "0123456789".toList, digitWeight c < 2 → c = '0' ∨ c = '1' := by decide
  exact all c (mem_decimals_of_digitWeight (by omega)) digit

theorem opens_of_decimal {c : Char} (digit : digitWeight c < 10) :
    ∀ other ∈ Terminal.all, other ≠ .number → other.opens c = false := by
  have all : ∀ c ∈ "0123456789".toList, ∀ other ∈ Terminal.all, other ≠ .number →
      other.opens c = false := by decide +kernel
  exact all c (mem_decimals_of_digitWeight digit)

theorem IsDigits.written_ne_nil
    {base : Nat}
    {written : List Char}
    (digits : IsDigits base written) :
    written ≠ [] := by
  rintro rfl
  exact digits.nonempty rfl

/-- A base mark and the digits behind it are matched up to white space. -/
theorem baseLength?_append
    {rest : List Char}
    (ends : Ends rest)
    {isMember : Char → Bool}
    (stops : ∀ c, isSpace c = true → isMember c = false)
    {written : List Char}
    (members : ∀ c ∈ written, isMember c = true)
    (nonempty : written ≠ []) :
    baseLength? isMember (written ++ rest) = some (written.length + 2) := by
  have all := takeWhile_append_of_ends ends stops written
  rw [List.takeWhile_eq_self_iff.mpr members] at all
  rw [baseLength?, all, Nat.add_comm]
  exact if_neg (mt List.eq_nil_of_length_eq_zero nonempty)

theorem isLexeme_hexadecimal
    {mark : Char}
    {written : List Char}
    (marked : mark = 'x' ∨ mark = 'X')
    (digits : IsDigits 16 written) :
    IsLexeme .number ('0' :: mark :: written) := by
  apply isLexeme_of_opens (opens_of_decimal (by decide))
  intro rest ends
  have stops : ∀ c, isSpace c = true → (c == '_' || (hexValue? c).isSome) = false := by
    intro c space
    rcases (isSpace_iff c).mp space with rfl | rfl | rfl | rfl | rfl <;> decide
  have members : ∀ c ∈ written, (c == '_' || (hexValue? c).isSome) = true := by
    intro c member
    rcases digits.members c member with rfl | digit
    · rfl
    · simp [hexValue?_of_digitWeight digit]
  have length := baseLength?_append ends stops members digits.written_ne_nil
  rw [Terminal.matchLength?, List.cons_append, List.cons_append, numberLength?]
  rcases marked with rfl | rfl <;> simp [length]

theorem isLexeme_binary
    {mark : Char}
    {written : List Char}
    (marked : mark = 'b' ∨ mark = 'B')
    (digits : IsDigits 2 written) :
    IsLexeme .number ('0' :: mark :: written) := by
  apply isLexeme_of_opens (opens_of_decimal (by decide))
  intro rest ends
  have stops : ∀ c, isSpace c = true → (c == '_' || c == '0' || c == '1') = false := by
    intro c space
    rcases (isSpace_iff c).mp space with rfl | rfl | rfl | rfl | rfl <;> decide
  have members : ∀ c ∈ written, (c == '_' || c == '0' || c == '1') = true := by
    intro c member
    rcases digits.members c member with rfl | digit
    · rfl
    · rcases eq_or_eq_of_digitWeight digit with rfl | rfl <;> rfl
  have length := baseLength?_append ends stops members digits.written_ne_nil
  rw [Terminal.matchLength?, List.cons_append, List.cons_append, numberLength?]
  rcases marked with rfl | rfl <;> simp [length]

/-- A decimal without point and exponent is matched up to white space. -/
theorem decimalLength?_append
    {rest : List Char}
    (ends : Ends rest)
    {first : Char}
    (digit : isDigit first = true)
    {others : List Char}
    (members : ∀ c ∈ others, isDigitOrSeparator c = true) :
    decimalLength? (first :: (others ++ rest)) = some (others.length + 1) := by
  have all := takeWhile_append_of_ends ends
    (fun c space => not_isDigitOrSeparator_of_isSpace space) others
  rw [List.takeWhile_eq_self_iff.mpr members] at all
  have whole : mantissaLength? (first :: (others ++ rest)) = some (others.length + 1) := by
    rw [mantissaLength?]
    · rw [if_pos digit, all]
      dsimp only
      rw [List.drop_left]
      cases rest with
      | nil => simp [Nat.add_comm]
      | cons c rest =>
          have pointless : c ≠ '.' := by
            rintro rfl
            cases ends.head
          simp [pointless, Nat.add_comm]
    · rintro second after rfl
      cases digit
  have exponentless : exponentLength rest = 0 := by
    cases rest with
    | nil => rfl
    | cons c rest =>
        have unmarked : (c == 'e' || c == 'E') = false := by
          rcases (isSpace_iff c).mp ends.head with rfl | rfl | rfl | rfl | rfl <;> rfl
        simp [exponentLength, unmarked]
  have behind : (first :: (others ++ rest)).drop (others.length + 1) = rest := by
    rw [List.drop_succ_cons, List.drop_left]
  rw [decimalLength?, whole, Option.map_some, behind, exponentless]

/-- Behind the first digit of a decimal there is no base mark. -/
theorem numberLength?_of_unmarked
    {first : Char}
    {text : List Char}
    (unmarked : ∀ mark ∈ text.head?, mark ∉ ['x', 'X', 'b', 'B']) :
    numberLength? (first :: text) = decimalLength? (first :: text) := by
  unfold numberLength?
  split
  · rename_i mark after split
    cases split
    have other := unmarked mark rfl
    simp only [List.mem_cons, List.not_mem_nil, or_false, not_or] at other
    simp [other]
  · rfl

theorem isLexeme_decimal
    {written : List Char}
    (digits : IsDigits 10 written)
    (start : written.head? ≠ some '_') :
    IsLexeme .number written := by
  cases written with
  | nil => exact absurd rfl digits.nonempty
  | cons first others =>
      have decimal : digitWeight first < 10 := by
        rcases digits.members first List.mem_cons_self with underscore | digit
        · exact absurd (congrArg some underscore) start
        · exact digit
      apply isLexeme_of_opens (opens_of_decimal decimal)
      intro rest ends
      have members : ∀ c ∈ others, isDigitOrSeparator c = true := by
        intro c member
        rcases digits.members c (List.mem_cons_of_mem first member) with rfl | digit
        · rfl
        · simp [isDigitOrSeparator, isDigit_of_digitWeight digit]
      have unmarked : ∀ mark ∈ (others ++ rest).head?, mark ∉ ['x', 'X', 'b', 'B'] := by
        intro mark following
        have known : isDigitOrSeparator mark = true ∨ isSpace mark = true := by
          cases others with
          | nil => exact Or.inr (ends mark following)
          | cons second others =>
              rw [List.cons_append, List.head?_cons, Option.mem_some_iff] at following
              exact Or.inl (following ▸ members second List.mem_cons_self)
        intro marked
        have all : ∀ mark ∈ ['x', 'X', 'b', 'B'],
            isDigitOrSeparator mark = false ∧ isSpace mark = false := by decide
        simp [all mark marked] at known
      rw [Terminal.matchLength?, List.cons_append, numberLength?_of_unmarked unmarked]
      exact decimalLength?_append ends (isDigit_of_digitWeight decimal) members

/-! ## Strings -/

theorem closingDistance?_of_isBody
    {quote : Char}
    (quoting : isQuote quote = true)
    {body : List Char}
    (inside : IsBody quote body)
    (rest : List Char) :
    closingDistance? quote (body ++ quote :: rest) = some (body.length + 1) := by
  have unescaped : quote ≠ '\\' := by
    rintro rfl
    cases quoting
  induction inside with
  | nil =>
      rw [List.nil_append, closingDistance?]
      · simp
      · rintro escaped after rfl
        exact absurd rfl unescaped
      · rintro rfl
        exact absurd rfl unescaped
  | @escape escaped others sameLine _ ih =>
      rw [List.cons_append, List.cons_append, closingDistance?, ih]
      simp [sameLine]
  | @plain c others apart noEscape sameLine _ ih =>
      have stays : (c == '\n' && quote != backQuote) = false := by
        by_cases back : quote = backQuote
        · simp [back]
        · simp [sameLine back]
      rw [List.cons_append, closingDistance?, ih]
      · simp [apart, stays]
      · rintro escaped after rfl
        exact absurd rfl noEscape
      · rintro rfl
        exact absurd rfl noEscape

theorem isLexeme_string
    {quote : Char}
    {body : List Char}
    (quoting : isQuote quote = true)
    (inside : IsBody quote body) :
    IsLexeme .string (quote :: (body ++ [quote])) := by
  have closed : ∀ other ∈ Terminal.all, other ≠ .string → other.opens quote = false := by
    rw [isQuote, Bool.or_eq_true, Bool.or_eq_true, beq_iff_eq, beq_iff_eq, beq_iff_eq] at quoting
    rcases quoting with (rfl | rfl) | rfl <;> decide +kernel
  apply isLexeme_of_opens closed
  intro rest _
  have distance := closingDistance?_of_isBody quoting inside rest
  rw [isQuote] at quoting
  have text : quote :: (body ++ [quote]) ++ rest = quote :: (body ++ quote :: rest) := by simp
  rw [Terminal.matchLength?, text, stringLength?, if_pos quoting, distance]
  simp

/-- Every token that a printer writes is a lexeme of its kind. -/
theorem Piece.isLexeme (piece : Piece) : IsLexeme piece.terminal piece.lexeme := by
  cases piece with
  | name text named => exact isLexeme_name named
  | number value written numbering =>
      cases numbering with
      | decimal digits start limited => exact isLexeme_decimal digits start
      | hexadecimal marked digits => exact isLexeme_hexadecimal marked digits
      | binary marked digits => exact isLexeme_binary marked digits
  | string quote body quoting inside => exact isLexeme_string quoting inside
  | fixed terminal text known => exact isLexeme_fixed known

end LuauNodes.Expression
