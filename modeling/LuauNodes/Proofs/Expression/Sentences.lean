import LuauNodes.Expression.Parse
import LuauNodes.Proofs.Expression.Balancing
import LuauNodes.Proofs.Expression.Grammar
import LuauNodes.Proofs.Expression.Roundtrip

/-!
# Sentences reach the grammar

What is checked before the grammar looks at a text stops no sentence.  The rules
nest brackets in pairs, so the terminals of a derived word do; the lexemes of
all other terminals but strings hold no bracket and no quote, and a string
literal ends for the scan where it ends for its pattern.
-/

namespace LuauNodes.Expression

open LuauNodes.Text

variable {form : Form} {word : List Terminal} {opened : List Char}

/-! ## Brackets of words -/

/-- The bracket that a terminal is. -/
def Terminal.bracket? : Terminal → Option Char
  | .openParen => some '('
  | .closeParen => some ')'
  | .openBracket => some '['
  | .closeBracket => some ']'
  | .openBrace => some '\x7b'
  | .closeBrace => some '\x7d'
  | _ => none

/-- The brackets that are open behind a bracket, innermost first, unless it closes a wrong one. -/
def nestBracket (bracket : Char) (opened : List Char) : Option (List Char) :=
  if (closerOf? bracket).isSome then some (bracket :: opened)
  else
    match opened with
    | [] => none
    | innermost :: outer => if closerOf? innermost = some bracket then some outer else none

/-- The brackets that are open behind a terminal. -/
def Terminal.nest (terminal : Terminal) (opened : List Char) : Option (List Char) :=
  match terminal.bracket? with
  | some bracket => nestBracket bracket opened
  | none => some opened

/-- The brackets that are open behind every word of a form; phrases leave none open. -/
def Form.nest : Form → List Char → Option (List Char)
  | .nothing, opened => some opened
  | .token terminal, opened => terminal.nest opened
  | .phrase _, opened => some opened
  | .followedBy first second, opened => (first.nest opened).bind second.nest
  | .either first second, opened =>
    if first.nest opened = second.nest opened then first.nest opened else none
  | .many form, opened => if form.nest opened = some opened then some opened else none

/-- The brackets that are open behind a word. -/
def nestWord (word : List Terminal) (opened : List Char) : Option (List Char) :=
  word.foldlM (fun opened terminal => terminal.nest opened) opened

theorem nestWord_append
    (front back : List Terminal)
    (opened : List Char) :
    nestWord (front ++ back) opened = (nestWord front opened).bind (nestWord back) :=
  List.foldlM_append

theorem nestBracket_within
    {bracket : Char}
    {after : List Char}
    (nests : nestBracket bracket opened = some after)
    (outer : List Char) :
    nestBracket bracket (opened ++ outer) = some (after ++ outer) := by
  unfold nestBracket at nests ⊢
  split_ifs at nests ⊢ with opening
  · cases nests
    rfl
  · cases opened with
    | nil => cases nests
    | cons innermost others =>
        dsimp only at nests
        split_ifs at nests with pairs
        cases nests
        exact if_pos pairs

theorem Terminal.nest_within
    {terminal : Terminal}
    {after : List Char}
    (nests : terminal.nest opened = some after)
    (outer : List Char) :
    terminal.nest (opened ++ outer) = some (after ++ outer) := by
  rw [Terminal.nest] at nests ⊢
  cases found : terminal.bracket? with
  | none =>
      rw [found] at nests
      cases nests
      rfl
  | some bracket =>
      rw [found] at nests
      exact nestBracket_within nests outer

/-- Brackets further out stay as they are. -/
theorem Form.nest_within
    {after : List Char}
    (nests : form.nest opened = some after)
    (outer : List Char) :
    form.nest (opened ++ outer) = some (after ++ outer) := by
  induction form generalizing opened after with
  | nothing | phrase _ =>
      cases nests
      rfl
  | token terminal => exact Terminal.nest_within nests outer
  | followedBy first second firstWithin secondWithin =>
      rw [Form.nest, Option.bind_eq_some_iff] at nests ⊢
      rcases nests with ⟨between, firstNests, secondNests⟩
      exact ⟨between ++ outer, firstWithin firstNests, secondWithin secondNests⟩
  | either first second firstWithin secondWithin =>
      rw [Form.nest] at nests ⊢
      split_ifs at nests with same
      rw [firstWithin nests, secondWithin (same ▸ nests), if_pos rfl]
  | many form within =>
      rw [Form.nest] at nests ⊢
      split_ifs at nests with balanced
      cases nests
      rw [within balanced, if_pos rfl]

/-- Every rule closes the brackets that it opens. -/
theorem Phrase.nest_rule (phrase : Phrase) (opened : List Char) :
    phrase.rule.nest opened = some opened := by
  have alone : phrase.rule.nest [] = some [] := by cases phrase <;> decide
  exact Form.nest_within alone opened

theorem Form.Derives.nests
    (derives : form.Derives word)
    {after : List Char}
    (nests : form.nest opened = some after) :
    nestWord word opened = some after := by
  induction derives generalizing opened after with
  | nothing => exact nests
  | token => simpa [nestWord, Form.nest] using nests
  | @phrase phrase _ _ ih =>
      cases nests
      exact ih (phrase.nest_rule opened)
  | followedBy _ _ firstNests secondNests =>
      rw [Form.nest, Option.bind_eq_some_iff] at nests
      rcases nests with ⟨between, firstNest, secondNest⟩
      rw [nestWord_append, firstNests firstNest]
      exact secondNests secondNest
  | left _ ih =>
      rw [Form.nest] at nests
      split_ifs at nests
      exact ih nests
  | right _ ih =>
      rw [Form.nest] at nests
      split_ifs at nests with same
      exact ih (same ▸ nests)
  | stop =>
      rw [Form.nest] at nests
      split_ifs at nests
      exact nests
  | @again form _ _ _ _ ih othersNest =>
      have repeating := nests
      rw [Form.nest] at nests
      split_ifs at nests with balanced
      rw [nestWord_append, ih balanced]
      exact othersNest (nests ▸ repeating)

/-! ## Lexemes -/

namespace Pattern

/-- No lexeme of the pattern holds one of the characters. -/
def avoids (characters : List Char) : Pattern → Bool
  | nothing | ahead _ => true
  | one member => characters.all fun c => !member c
  | exactly text => text.all fun c => !characters.contains c
  | followedBy first second | either first second =>
    first.avoids characters && second.avoids characters
  | many pattern => pattern.avoids characters

/-- Every lexeme of the pattern holds a character that is not blank. -/
def Shows : Pattern → Prop
  | nothing | ahead _ | many _ => False
  | one member => ∀ c, member c = true → isBlank c = false
  | exactly text => ∃ c ∈ text, isBlank c = false
  | followedBy first second => first.Shows ∨ second.Shows
  | either first second => first.Shows ∧ second.Shows

variable {pattern : Pattern} {lexeme rest : List Char}

theorem Fits.not_mem
    (fits : pattern.Fits lexeme rest)
    {characters : List Char}
    (apart : pattern.avoids characters = true) :
    ∀ c ∈ lexeme, c ∉ characters := by
  induction fits with
  | nothing | ahead _ | stop => simp
  | one member =>
      intro c here special
      rw [List.mem_singleton.mp here] at special
      have excluded := List.all_eq_true.mp apart _ special
      rw [member] at excluded
      cases excluded
  | exactly =>
      intro c here
      simpa using List.all_eq_true.mp apart c here
  | followedBy _ _ firstApart secondApart =>
      rw [avoids, Bool.and_eq_true] at apart
      exact List.forall_mem_append.mpr ⟨firstApart apart.1, secondApart apart.2⟩
  | left _ ih =>
      rw [avoids, Bool.and_eq_true] at apart
      exact ih apart.1
  | right _ ih =>
      rw [avoids, Bool.and_eq_true] at apart
      exact ih apart.2
  | again _ _ ih othersApart =>
      exact List.forall_mem_append.mpr ⟨ih apart, othersApart apart⟩

theorem Fits.exists_not_blank
    (fits : pattern.Fits lexeme rest)
    (shows : pattern.Shows) :
    ∃ c ∈ lexeme, isBlank c = false := by
  induction fits with
  | nothing | ahead _ | stop | again _ _ _ _ => cases shows
  | one member => exact ⟨_, List.mem_cons_self, shows _ member⟩
  | exactly => exact shows
  | followedBy _ _ firstShown secondShown =>
      rcases shows with front | back
      · rcases firstShown front with ⟨c, member, solid⟩
        exact ⟨c, List.mem_append_left _ member, solid⟩
      · rcases secondShown back with ⟨c, member, solid⟩
        exact ⟨c, List.mem_append_right _ member, solid⟩
  | left _ ih => exact ih shows.1
  | right _ ih => exact ih shows.2

/-- What stands between the quotes of a literal ends for the scan where it ends for the pattern. -/
theorem Fits.isBody
    {quote : Char}
    (fits : (quotedBody quote).Fits lexeme rest) :
    IsBody quote lexeme := by
  generalize whole : quotedBody quote = pattern at fits
  induction fits with
  | nothing | one _ | exactly | ahead _ | followedBy _ _ _ _ | left _ _ | right _ _ => cases whole
  | stop => exact .nil
  | again fits _ _ ih =>
      have body := ih whole
      cases whole
      cases fits with
      | left escape =>
          cases escape with
          | followedBy backslash escaped =>
              cases backslash
              cases escaped with
              | one sameLine => exact .escape (by simpa using sameLine) body
      | right plain =>
          cases plain with
          | one fits =>
              simp only [Bool.and_eq_true, bne_iff_ne, Bool.or_eq_true, beq_iff_eq] at fits
              rcases fits with ⟨⟨inside, unescaped⟩, sameLine⟩
              exact .plain inside unescaped (fun other => sameLine.resolve_left other) body

theorem Fits.of_isBody
    {quote : Char}
    (body : IsBody quote lexeme) :
    (quotedBody quote).Fits lexeme rest := by
  induction body with
  | nil => exact .stop
  | escape sameLine _ ih =>
      exact .again (.left (.followedBy .exactly (.one (by simpa using sameLine)))) ih
  | plain inside unescaped sameLine _ ih =>
      refine .again (.right (.one ?_)) ih
      simp only [Bool.and_eq_true, bne_iff_ne, Bool.or_eq_true, beq_iff_eq]
      exact ⟨⟨inside, unescaped⟩, or_iff_not_imp_left.mpr sameLine⟩

theorem Fits.of_quoted
    {quote : Char}
    (body : IsBody quote lexeme) :
    (quoted quote).Fits (quote :: (lexeme ++ [quote])) rest :=
  .followedBy .exactly (.followedBy (Fits.of_isBody body) .exactly)

theorem Fits.passes_of_quoted
    {quote : Char}
    (quoting : isQuote quote = true)
    (fits : (quoted quote).Fits lexeme rest) :
    Passes lexeme := by
  cases fits with
  | followedBy opening others =>
      cases opening
      cases others with
      | followedBy body closing =>
          cases closing
          exact passes_string quoting body.isBody

end Pattern

theorem isBlank_of_isDigit {c : Char} (digit : isDigit c = true) : isBlank c = false := by
  have apart : ∀ start ∈ digitZeros, ∀ interval ∈ blankRanges,
      interval.2 < start ∨ start + 10 ≤ interval.1 := by decide +kernel
  rw [isDigit, digitValue?, Option.isSome_map, List.find?_isSome] at digit
  rcases digit with ⟨start, known, range⟩
  simp only [Bool.and_eq_true, decide_eq_true_eq] at range
  rw [isBlank, ← Bool.not_eq_true, inRanges_iff]
  rintro ⟨interval, member, low, high⟩
  have := apart start known interval member
  omega

theorem Pattern.shows_exactly
    {text : List Char}
    (solid : (text.any fun c => !isBlank c) = true) :
    (exactly text).Shows := by
  rcases List.any_eq_true.mp solid with ⟨c, member, apart⟩
  exact ⟨c, member, by simpa using apart⟩

theorem Pattern.shows_among
    {texts : List String}
    (solid : ∀ text ∈ texts, (text.toList.any fun c => !isBlank c) = true) :
    (among texts).Shows := by
  induction texts with
  | nil => exact fun _ impossible => absurd impossible Bool.false_ne_true
  | cons text others ih =>
      rw [List.forall_mem_cons] at solid
      cases others with
      | nil => exact shows_exactly solid.1
      | cons _ _ => exact ⟨shows_exactly solid.1, ih solid.2⟩

/-- Every lexeme can be told from white space. -/
theorem Terminal.shows (terminal : Terminal) : terminal.pattern.Shows := by
  cases terminal with
  | name => exact Or.inr (Or.inl fun _ => not_isBlank_of_isNameStart)
  | number =>
      have zero : (Pattern.exactly ['0']).Shows := Pattern.shows_exactly (by decide)
      have point : (Pattern.exactly ['.']).Shows := Pattern.shows_exactly (by decide)
      have digit : (Pattern.one isDigit).Shows := fun _ => isBlank_of_isDigit
      exact ⟨Or.inl zero, Or.inl zero, Or.inl ⟨Or.inl (Or.inl digit), Or.inl point⟩⟩
  | string =>
      have shows_quoted : ∀ quote ∈ ['"', '\'', backQuote], (Pattern.quoted quote).Shows :=
        fun quote member => Or.inl ⟨quote, List.mem_cons_self, by revert quote; decide⟩
      exact ⟨shows_quoted '"' (by decide), shows_quoted '\'' (by decide),
        shows_quoted backQuote (by decide)⟩
  | andWord | orWord | notWord | nilWord | trueWord | falseWord | ifWord | thenWord | elseWord
  | elseifWord => exact Or.inl (Pattern.shows_exactly (by decide))
  | _ => exact Pattern.shows_among (by decide)

/-- Only brackets and strings hold characters that the scan looks at. -/
theorem Terminal.avoids_specials
    {terminal : Terminal}
    (unbracketed : terminal.bracket? = none)
    (unquoted : terminal ≠ .string) :
    terminal.pattern.avoids specials = true := by
  have all : ∀ terminal ∈ Terminal.all, terminal.bracket? = none → terminal ≠ .string →
      terminal.pattern.avoids specials = true := by decide +kernel
  exact all terminal terminal.mem_all unbracketed unquoted

/-- The scan passes over every lexeme that is no bracket. -/
theorem Terminal.passes_of_fits
    {terminal : Terminal}
    (unbracketed : terminal.bracket? = none)
    {lexeme rest : List Char}
    (fits : terminal.pattern.Fits lexeme rest) :
    Passes lexeme := by
  by_cases quoted : terminal = .string
  · subst quoted
    cases fits with
    | left double => exact double.passes_of_quoted (by decide)
    | right others =>
        cases others with
        | left single => exact single.passes_of_quoted (by decide)
        | right back => exact back.passes_of_quoted (by decide)
  · exact passes_of_plain (fits.not_mem (terminal.avoids_specials unbracketed quoted))

theorem Terminal.lexeme_of_bracket
    {terminal : Terminal}
    {bracket : Char}
    (isBracket : terminal.bracket? = some bracket)
    {lexeme rest : List Char}
    (fits : terminal.pattern.Fits lexeme rest) :
    lexeme = [bracket] := by
  cases terminal <;> cases isBracket <;> cases fits <;> rfl

/-! ## Texts -/

/-- The scan goes with a bracket. -/
theorem exists_scan_of_nestBracket
    {bracket : Char}
    (column : Nat)
    (opened : List (Char × Nat))
    (rest : List Char)
    {after : List Char}
    (nests : nestBracket bracket (opened.map Prod.fst) = some after) :
    ∃ further behind, behind.map Prod.fst = after ∧
      balanceFault? column opened none (bracket :: rest) =
        balanceFault? further behind none rest := by
  unfold nestBracket at nests
  split_ifs at nests with opening
  · rcases Option.isSome_iff_exists.mp opening with ⟨closer, pairs⟩
    cases nests
    exact ⟨column + 1, (bracket, column) :: opened, rfl, balanceFault?_opening pairs ..⟩
  · cases opened with
    | nil => cases nests
    | cons innermost outer =>
        rw [List.map_cons] at nests
        dsimp only at nests
        split_ifs at nests with pairs
        cases nests
        exact ⟨column + 1, outer, rfl, balanceFault?_closing pairs ..⟩

/-- The scan of a spelled text keeps the brackets that its word leaves open. -/
theorem Spells.exists_scan
    {text : List Char}
    (spells : Spells word text)
    (column : Nat)
    (opened : List (Char × Nat))
    {after : List Char}
    (nests : nestWord word (opened.map Prod.fst) = some after) :
    ∃ further behind, behind.map Prod.fst = after ∧
      balanceFault? column opened none text = balanceFault? further behind none [] := by
  induction spells generalizing column opened with
  | done isGap =>
      rcases passes_gap isGap column opened [] with ⟨further, scan⟩
      cases nests
      exact ⟨further, opened, rfl, by rwa [List.append_nil] at scan⟩
  | @more terminal word gap lexeme rest isGap fits _ ih =>
      rw [nestWord, List.foldlM_cons] at nests
      rcases Option.bind_eq_some_iff.mp nests with ⟨between, first, others⟩
      rcases passes_gap isGap column opened (lexeme ++ rest) with ⟨start, gapScan⟩
      rw [gapScan]
      rw [Terminal.nest] at first
      cases found : terminal.bracket? with
      | none =>
          rw [found] at first
          cases first
          rcases terminal.passes_of_fits found fits start opened rest with ⟨middle, lexemeScan⟩
          rw [lexemeScan]
          exact ih middle opened others
      | some bracket =>
          rw [found] at first
          rcases exists_scan_of_nestBracket start opened rest first with
            ⟨middle, inside, rfl, lexemeScan⟩
          rw [terminal.lexeme_of_bracket found fits, List.singleton_append, lexemeScan]
          exact ih middle inside others

/-- Every word of the form has a terminal. -/
def Form.shows : Form → Bool
  | .nothing | .many _ => false
  | .token _ | .phrase _ => true
  | .followedBy first second => first.shows || second.shows
  | .either first second => first.shows && second.shows

theorem Form.Derives.ne_nil
    (derives : form.Derives word)
    (shows : form.shows = true) :
    word ≠ [] := by
  induction derives with
  | nothing | stop | again _ _ _ _ => cases shows
  | token => exact List.cons_ne_nil _ _
  | @phrase phrase _ _ ih => exact ih (by cases phrase <;> decide)
  | followedBy _ _ firstShown secondShown =>
      rw [Form.shows, Bool.or_eq_true] at shows
      rcases shows with front | back
      · exact List.append_ne_nil_of_left_ne_nil (firstShown front) _
      · exact List.append_ne_nil_of_right_ne_nil _ (secondShown back)
  | left _ ih =>
      rw [Form.shows, Bool.and_eq_true] at shows
      exact ih shows.1
  | right _ ih =>
      rw [Form.shows, Bool.and_eq_true] at shows
      exact ih shows.2

theorem Spells.exists_not_blank
    {text : List Char}
    (spells : Spells word text)
    (nonempty : word ≠ []) :
    ∃ c ∈ text, isBlank c = false := by
  cases spells with
  | done _ => exact absurd rfl nonempty
  | more _ fits _ =>
      rcases fits.exists_not_blank (Terminal.shows _) with ⟨c, member, solid⟩
      exact ⟨c, List.mem_append_right _ (List.mem_append_left _ member), solid⟩

/-- No check in front of the grammar stops a sentence: it is not blank, its brackets and quotes
match, and what it is read as is what the grammar makes of it. -/
theorem parse_of_isSentence
    {text : String}
    (sentence : IsSentence text.toList) :
    isBlankText text = false ∧
      textBalanceFault? text.toList = none ∧
      ∀ field, parse text field = readOperand text.toList >>= Operand.tree? := by
  rcases sentence with ⟨word, derives, spells⟩
  have solid : isBlankText text = false := by
    rcases spells.exists_not_blank (derives.ne_nil rfl) with ⟨c, member, apart⟩
    rw [isBlankText, List.all_eq_false]
    exact ⟨c, member, by rw [apart]; exact Bool.false_ne_true⟩
  have balanced : textBalanceFault? text.toList = none := by
    have nests : nestWord word [] = some [] := derives.nests rfl
    rcases spells.exists_scan 1 [] nests with ⟨further, behind, closed, scan⟩
    rw [textBalanceFault?, scan, List.map_eq_nil_iff.mp closed]
    rfl
  refine ⟨solid, balanced, fun field => ?_⟩
  rw [parse, solid, balanced]
  cases readOperand text.toList with
  | error fault => rfl
  | ok operand => rfl

theorem derives_separated
    {item : Phrase}
    {separator : Form}
    (derives : (Form.phrase item).Derives word) :
    (Form.separated item separator).Derives word := by
  rw [← List.append_nil word]
  exact .followedBy derives .stop

/-- A unary operator with its operand, or what binds more tightly, is an expression. -/
theorem derives_expression_of_unary
    (unary : (Form.phrase .unary).Derives word) :
    (Form.phrase .expression).Derives word := by
  have product : (Form.phrase .product).Derives word := .phrase (derives_separated unary)
  have sum : (Form.phrase .sum).Derives word := .phrase (derives_separated product)
  have concatenation : (Form.phrase .concatenation).Derives word :=
    .phrase (derives_separated sum)
  have comparison : (Form.phrase .comparison).Derives word :=
    .phrase (derives_separated concatenation)
  have conjunction : (Form.phrase .conjunction).Derives word :=
    .phrase (derives_separated comparison)
  exact .phrase (.right (.phrase (derives_separated conjunction)))

theorem derives_unary
    (derives : (Form.phrase .access).Derives word) :
    (Form.phrase .unary).Derives word := by
  have power : (Form.phrase .power).Derives word := by
    rw [← List.append_nil word]
    exact .phrase (.followedBy derives (.right .nothing))
  exact .phrase (.right (.right (.right power)))

/-- What needs no parentheses behind it is an expression. -/
theorem derives_expression
    (derives : (Form.phrase .access).Derives word) :
    (Form.phrase .expression).Derives word :=
  derives_expression_of_unary (derives_unary derives)

theorem isGap_nil : IsGap [] := fun _ impossible => absurd impossible List.not_mem_nil

/-- A lexeme with no white space in front of it. -/
theorem Spells.tight
    {lexeme rest : List Char}
    (spells : Spells word rest)
    (terminal : Terminal)
    (fits : terminal.pattern.Fits lexeme rest) :
    Spells (terminal :: word) (lexeme ++ rest) :=
  .more isGap_nil fits spells

/-- A call indexed by a table, with brackets and quotes inside its strings. -/
theorem parse_of_isSentence_indexed_call :
    IsSentence "f(\"(\\\"\")[\x7b'['\x7d]".toList ∧
      textBalanceFault? "f(\"(\\\"\")[\x7b'['\x7d]".toList = none := by
  have string : (Form.phrase .expression).Derives [.string] :=
    derives_expression (.phrase (.left (.phrase (.right (.right (.left .token))))))
  have call : (Form.phrase .access).Derives [.name, .openParen, .string, .closeParen] := by
    have callee : (Form.phrase .access).Derives [.name] := .phrase (.left (.phrase (.left .token)))
    have arguments : (Form.phrase .arguments).Derives [.string] :=
      .phrase (derives_separated string)
    exact .phrase (.right (.right (.right (.left (.followedBy callee
      (.followedBy .token (.followedBy (.left arguments) .token)))))))
  have table : (Form.phrase .expression).Derives [.openBrace, .string, .closeBrace] := by
    have fields : (Form.separated .field .fieldSeparator).Derives [.string] :=
      derives_separated (.phrase (.right (.right string)))
    have whole : (Form.phrase .table).Derives [.openBrace, .string, .closeBrace] :=
      .phrase (.followedBy .token (.followedBy
        (.left (.followedBy fields (.right .nothing))) .token))
    exact derives_expression (.phrase (.left (.phrase
      (.right (.right (.right (.right (.right (.right (.right whole))))))))))
  have sentence : IsSentence "f(\"(\\\"\")[\x7b'['\x7d]".toList := by
    refine ⟨[.name, .openParen, .string, .closeParen, .openBracket, .openBrace, .string,
      .closeBrace, .closeBracket], ?_, ?_⟩
    · exact derives_expression (.phrase (.right (.right (.left
        (.followedBy call (.followedBy .token (.followedBy table .token)))))))
    · have argument : IsBody '"' ['(', '\\', '"'] :=
        .plain (by decide) (by decide) (by decide) (.escape (by decide) .nil)
      have key : IsBody '\'' ['['] := .plain (by decide) (by decide) (by decide) .nil
      have indexing := (((Spells.done isGap_nil).tight .closeBracket .exactly).tight
        .closeBrace .exactly).tight .string (.right (.left (.of_quoted key)))
      have calling := (((indexing.tight .openBrace .exactly).tight .openBracket .exactly).tight
        .closeParen .exactly).tight .string (.left (.of_quoted argument))
      exact (calling.tight .openParen .exactly).tight .name
        (.followedBy (.ahead (by decide)) (.followedBy (.one (by decide)) .stop))
  exact ⟨sentence, (parse_of_isSentence sentence).2.1⟩

end LuauNodes.Expression
