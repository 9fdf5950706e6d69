import LuauNodes.Proofs.Expression.Printing

/-!
# What terminals match

A terminal is opened by few characters, none of them white space, and no match
but that of a string literal goes past white space.  So what a terminal matches
in front of white space is what it matches by itself.
-/

namespace LuauNodes.Expression

open LuauNodes.Text

/-- What is to hold of the characters of a list is checked for these alone, not for every
character that there is. -/
instance (priority := 2000) decidableForallCharacters
    {Holds : Char → Prop}
    [DecidablePred Holds]
    (characters : List Char) :
    Decidable (∀ c ∈ characters, Holds c) :=
  List.decidableBAll Holds characters

/-! ## White space -/

theorem isSpace_iff (c : Char) :
    isSpace c = true ↔
      c = ' ' ∨ c = '\t' ∨ c = Char.ofNat 12 ∨ c = '\r' ∨ c = '\n' := by
  simp [isSpace, or_assoc]

theorem not_isWordChar_of_isSpace {c : Char} (space : isSpace c = true) :
    isWordChar c = false := by
  rcases (isSpace_iff c).mp space with rfl | rfl | rfl | rfl | rfl <;> decide +kernel

theorem not_isNameChar_of_isSpace {c : Char} (space : isSpace c = true) :
    isNameChar c = false := by
  rcases (isSpace_iff c).mp space with rfl | rfl | rfl | rfl | rfl <;> decide

theorem not_isDigitOrSeparator_of_isSpace {c : Char} (space : isSpace c = true) :
    isDigitOrSeparator c = false := by
  rcases (isSpace_iff c).mp space with rfl | rfl | rfl | rfl | rfl <;> decide

theorem not_isDigit_of_isSpace {c : Char} (space : isSpace c = true) :
    isDigit c = false := by
  rcases (isSpace_iff c).mp space with rfl | rfl | rfl | rfl | rfl <;> decide

/-- A text is at its end or goes on with white space. -/
def Ends (text : List Char) : Prop := ∀ c ∈ text.head?, isSpace c = true

theorem Ends.cons {c : Char} (space : isSpace c = true) (rest : List Char) : Ends (c :: rest) := by
  intro first member
  rw [List.head?_cons, Option.mem_some_iff] at member
  exact member ▸ space

theorem Ends.head {c : Char} {rest : List Char} (ends : Ends (c :: rest)) : isSpace c = true :=
  ends c rfl

/-! ## Texts in front of white space -/

variable {rest : List Char}

theorem takeWhile_append_of_ends
    (ends : Ends rest)
    {p : Char → Bool}
    (stops : ∀ c, isSpace c = true → p c = false)
    (text : List Char) :
    (text ++ rest).takeWhile p = text.takeWhile p := by
  induction text with
  | nil =>
      cases rest with
      | nil => rfl
      | cons c rest => simp [stops c ends.head]
  | cons first text ih =>
      rw [List.cons_append, List.takeWhile_cons, List.takeWhile_cons, ih]

theorem isPrefixOf_append_of_ends
    (ends : Ends rest)
    {word : List Char}
    (solid : ∀ c ∈ word, isSpace c = false)
    (text : List Char) :
    word.isPrefixOf (text ++ rest) = word.isPrefixOf text := by
  induction word generalizing text with
  | nil => simp
  | cons first word ih =>
      have others : ∀ c ∈ word, isSpace c = false :=
        fun c member => solid c (List.mem_cons_of_mem first member)
      cases text with
      | cons c text => simp [List.isPrefixOf, ih others text]
      | nil =>
          cases rest with
          | nil => rfl
          | cons c rest =>
              have apart : (first == c) = false := by
                rw [beq_eq_false_iff_ne]
                intro same
                have space := ends.head
                rw [← same, solid first List.mem_cons_self] at space
                cases space
              simp [List.isPrefixOf, apart]

theorem fixedLength?_append
    (ends : Ends rest)
    {fixed : List String}
    (solid : ∀ word ∈ fixed, ∀ c ∈ word.toList, isSpace c = false)
    (text : List Char) :
    fixedLength? fixed (text ++ rest) = fixedLength? fixed text := by
  induction fixed with
  | nil => rfl
  | cons word others ih =>
      have here := isPrefixOf_append_of_ends ends (solid word List.mem_cons_self) text
      have later := ih fun other member => solid other (List.mem_cons_of_mem word member)
      unfold fixedLength? at later ⊢
      rw [List.find?_cons, List.find?_cons, here]
      split
      · rfl
      · exact later

theorem beginsWithWord_append
    (ends : Ends rest)
    {word : String}
    (solid : ∀ c ∈ word.toList, isSpace c = false)
    (text : List Char) :
    beginsWithWord word (text ++ rest) = beginsWithWord word text := by
  rw [beginsWithWord, beginsWithWord, isPrefixOf_append_of_ends ends solid]
  cases begins : word.toList.isPrefixOf text with
  | false => rfl
  | true =>
      have within : word.length ≤ text.length := (List.isPrefixOf_iff_prefix.mp begins).length_le
      rw [List.drop_append_of_le_length within]
      cases text.drop word.length with
      | cons next after => rfl
      | nil =>
          cases rest with
          | nil => rfl
          | cons c rest => simp [not_isWordChar_of_isSpace ends.head]

theorem wordLength?_append
    (ends : Ends rest)
    {word : String}
    (solid : ∀ c ∈ word.toList, isSpace c = false)
    (text : List Char) :
    wordLength? word (text ++ rest) = wordLength? word text := by
  rw [wordLength?, wordLength?, beginsWithWord_append ends solid]

theorem solid_reservedWords : ∀ word ∈ reservedWords, ∀ c ∈ word.toList, isSpace c = false := by
  decide

theorem nameLength?_append
    (ends : Ends rest)
    {text : List Char}
    (nonempty : text ≠ []) :
    nameLength? (text ++ rest) = nameLength? text := by
  cases text with
  | nil => exact absurd rfl nonempty
  | cons first text =>
      have words : (reservedWords.any fun word => beginsWithWord word (first :: text ++ rest)) =
          reservedWords.any fun word => beginsWithWord word (first :: text) := by
        rw [Bool.eq_iff_iff, List.any_eq_true, List.any_eq_true]
        refine exists_congr fun word => and_congr_right fun member => ?_
        rw [beginsWithWord_append ends (solid_reservedWords word member)]
      have following := takeWhile_append_of_ends ends
        (fun c space => not_isNameChar_of_isSpace space) text
      rw [List.cons_append] at words ⊢
      rw [nameLength?, nameLength?, words, following]

/-! ## First characters -/

/-- A character may be the first one of a terminal. -/
def Terminal.opens (terminal : Terminal) (c : Char) : Bool :=
  match terminal with
  | .name => isNameStart c
  | .number => c == '.' || isDigit c
  | .string => isQuote c
  | fixed => fixed.texts.any fun text => text.toList.head? == some c

theorem head?_of_fixedLength?
    {fixed : List String}
    {c : Char}
    {text : List Char}
    {length : Nat}
    (solid : ∀ word ∈ fixed, word.toList ≠ [])
    (found : fixedLength? fixed (c :: text) = some length) :
    (fixed.any fun word => word.toList.head? == some c) = true := by
  rcases Option.map_eq_some_iff.mp found with ⟨word, foundWord, _⟩
  have begins := List.find?_some foundWord
  refine List.any_eq_true.mpr ⟨word, List.mem_of_find?_eq_some foundWord, ?_⟩
  cases letters : word.toList with
  | nil => exact absurd letters (solid word (List.mem_of_find?_eq_some foundWord))
  | cons first others =>
      rw [letters, List.isPrefixOf, Bool.and_eq_true] at begins
      simpa using begins.1

theorem head?_of_wordLength?
    {word : String}
    {c : Char}
    {text : List Char}
    {length : Nat}
    (solid : word.toList ≠ [])
    (found : wordLength? word (c :: text) = some length) :
    ([word].any fun word => word.toList.head? == some c) = true := by
  rw [wordLength?] at found
  split at found
  · rename_i begins
    rw [beginsWithWord, Bool.and_eq_true] at begins
    cases letters : word.toList with
    | nil => exact absurd letters solid
    | cons first others =>
        have first := begins.1
        rw [letters, List.isPrefixOf, Bool.and_eq_true] at first
        simpa [letters] using first.1
  · cases found

theorem nameStart_of_nameLength?
    {c : Char}
    {text : List Char}
    {length : Nat}
    (found : nameLength? (c :: text) = some length) :
    isNameStart c = true := by
  rw [nameLength?] at found
  split at found
  · cases found
  · rename_i plain
    rw [Bool.or_eq_true, not_or] at plain
    simpa using plain.1

/-- What begins a number: a digit, or a point with a digit behind it. -/
def beginsNumber : List Char → Bool
  | '.' :: c :: _ => isDigit c
  | c :: _ => isDigit c
  | [] => false

theorem numberLength?_eq_none
    {text : List Char}
    (other : beginsNumber text = false) :
    numberLength? text = none := by
  have unmarked : ∀ mark after, text ≠ '0' :: mark :: after := by
    rintro mark after rfl
    have zero : isDigit '0' = true := by decide
    rw [beginsNumber] at other
    · rw [zero] at other
      cases other
    · simp
  have noMantissa : mantissaLength? text = none := by
    unfold mantissaLength?
    split
    · rw [beginsNumber] at other
      simp [other]
    · rename_i digit after pointless
      rw [beginsNumber] at other
      · simp [other]
      · exact pointless
    · rfl
  unfold numberLength? decimalLength?
  rw [noMantissa]
  split
  · rename_i mark after
    exact absurd rfl (unmarked mark after)
  · rfl

theorem beginsNumber_append
    (ends : Ends rest)
    {text : List Char}
    (nonempty : text ≠ []) :
    beginsNumber (text ++ rest) = beginsNumber text := by
  match text, nonempty with
  | [c], _ =>
      cases rest with
      | nil => rfl
      | cons next rest =>
          have blank := not_isDigit_of_isSpace ends.head
          by_cases point : c = '.'
          · subst point
            have alone : isDigit '.' = false := by decide
            simp [beginsNumber, blank, alone]
          · simp [beginsNumber, point]
  | first :: second :: others, _ =>
      by_cases point : first = '.'
      · subst point
        rfl
      · simp [beginsNumber, point]

theorem opens_of_matchLength?
    {terminal : Terminal}
    {c : Char}
    {text : List Char}
    {length : Nat}
    (found : terminal.matchLength? (c :: text) = some length) :
    terminal.opens c = true := by
  cases terminal
  case name => exact nameStart_of_nameLength? found
  case number =>
      by_contra closed
      rw [Terminal.opens, Bool.or_eq_true, not_or, beq_iff_eq] at closed
      have other : beginsNumber (c :: text) = false := by
        rw [beginsNumber]
        · simpa using closed.2
        · intro second others point
          exact absurd point closed.1
      rw [Terminal.matchLength?, numberLength?_eq_none other] at found
      cases found
  case string =>
      rw [Terminal.matchLength?, stringLength?] at found
      split at found
      · rename_i quote
        exact quote
      · cases found
  case andWord | orWord | notWord | nilWord | trueWord | falseWord | ifWord | thenWord | elseWord
      | elseifWord => exact head?_of_wordLength? (by decide) found
  all_goals exact head?_of_fixedLength? (by decide) found

/-- Nothing is matched at white space. -/
theorem matchLength?_of_isSpace
    {c : Char}
    (space : isSpace c = true)
    (terminal : Terminal)
    (text : List Char) :
    terminal.matchLength? (c :: text) = none := by
  have closed : terminal.opens c = false := by
    rcases (isSpace_iff c).mp space with rfl | rfl | rfl | rfl | rfl <;>
      cases terminal <;> decide
  cases found : terminal.matchLength? (c :: text) with
  | none => rfl
  | some length =>
      rw [opens_of_matchLength? found] at closed
      cases closed

/-- A text begins with a quote. -/
def beginsString : List Char → Bool
  | [] => false
  | c :: _ => isQuote c

theorem stringLength?_eq_none
    {text : List Char}
    (other : beginsString text = false) :
    stringLength? text = none := by
  cases text with
  | nil => rfl
  | cons c text =>
      rw [beginsString, isQuote] at other
      rw [stringLength?, other]
      rfl

/-- Where neither a number nor a string begins, every terminal matches in front of white space
what it matches by itself. -/
theorem matchLength?_append
    (ends : Ends rest)
    {text : List Char}
    (nonempty : text ≠ [])
    (numberless : beginsNumber text = false)
    (stringless : beginsString text = false)
    (terminal : Terminal) :
    terminal.matchLength? (text ++ rest) = terminal.matchLength? text := by
  cases terminal
  case name => exact nameLength?_append ends nonempty
  case number =>
      have behind := numberLength?_eq_none
        ((beginsNumber_append ends nonempty).trans numberless)
      exact behind.trans (numberLength?_eq_none numberless).symm
  case string =>
      have behind : beginsString (text ++ rest) = false := by
        cases text with
        | nil => exact absurd rfl nonempty
        | cons c text => exact stringless
      exact (stringLength?_eq_none behind).trans (stringLength?_eq_none stringless).symm
  case andWord | orWord | notWord | nilWord | trueWord | falseWord | ifWord | thenWord | elseWord
      | elseifWord => exact wordLength?_append ends (by decide) text
  all_goals exact fixedLength?_append ends (by decide) text

/-! ## Lexemes -/

/-- In front of white space a terminal matches a text whole, and any other one less of it. -/
structure IsLexeme (terminal : Terminal) (lexeme : List Char) : Prop where
  nonempty : lexeme ≠ []
  whole : ∀ rest, Ends rest → terminal.matchLength? (lexeme ++ rest) = some lexeme.length
  longest : ∀ rest, Ends rest → ∀ other length, other ≠ terminal →
    other.matchLength? (lexeme ++ rest) = some length → length < lexeme.length

/-- A text that is neither a number nor a string is a lexeme if it is one by itself. -/
theorem isLexeme_of_alone
    {terminal : Terminal}
    {lexeme : List Char}
    (nonempty : lexeme ≠ [])
    (numberless : beginsNumber lexeme = false)
    (stringless : beginsString lexeme = false)
    (whole : terminal.matchLength? lexeme = some lexeme.length)
    (longest : ∀ other length, other ≠ terminal → other.matchLength? lexeme = some length →
      length < lexeme.length) :
    IsLexeme terminal lexeme where
  nonempty := nonempty
  whole := by
    intro rest ends
    rw [matchLength?_append ends nonempty numberless stringless]
    exact whole
  longest := by
    intro rest ends other length apart found
    rw [matchLength?_append ends nonempty numberless stringless] at found
    exact longest other length apart found

end LuauNodes.Expression
