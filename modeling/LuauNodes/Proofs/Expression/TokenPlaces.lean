import LuauNodes.Expression.Names
import LuauNodes.Proofs.Expression.Tokens

/-!
# Where tokens and names stand

The tokens that a text is read as stand in it one behind the other, with white
space between them alone.  A name that a tree reads is one of these tokens: no
step invents a name or changes the order of those before it, it can only drop
the one that turns out to name a field.
-/

namespace LuauNodes.Expression

variable {progress further final : Progress} {token : Token} {frames outer : List Frame}
  {operand last : Operand} {text before rest : List Char} {tokens : List (Nat × Token)}

/-! ## Every match takes characters -/

theorem fixedLength?_pos
    {fixed : List String}
    {length : Nat}
    (solid : ∀ word ∈ fixed, 0 < word.length)
    (found : fixedLength? fixed text = some length) :
    0 < length := by
  obtain ⟨word, chosen, rfl⟩ := Option.map_eq_some_iff.mp found
  exact solid word (List.mem_of_find?_eq_some chosen)

theorem wordLength?_pos
    {word : String}
    {length : Nat}
    (solid : 0 < word.length)
    (found : wordLength? word text = some length) :
    0 < length := by
  rw [wordLength?, Option.ite_none_right_eq_some] at found
  obtain ⟨_, same⟩ := found
  cases same
  exact solid

theorem mantissaLength?_pos
    {length : Nat}
    (found : mantissaLength? text = some length) :
    0 < length := by
  unfold mantissaLength? at found
  split at found
  · rw [Option.ite_none_right_eq_some] at found
    cases found.2
    omega
  · rw [Option.ite_none_right_eq_some] at found
    obtain ⟨_, whole⟩ := found
    dsimp only at whole
    split at whole <;> cases whole <;> omega
  · cases found

theorem numberLength?_pos
    {length : Nat}
    (found : numberLength? text = some length) :
    0 < length := by
  have based : ∀ member digits, baseLength? member digits = some length → 0 < length := by
    intro member digits based
    rw [baseLength?, Option.ite_none_left_eq_some] at based
    cases based.2
    omega
  unfold numberLength? at found
  rcases Option.or_eq_some_iff.mp found with marked | ⟨_, decimal⟩
  · split at marked
    · split at marked
      · exact based _ _ marked
      · rw [Option.ite_none_right_eq_some] at marked
        exact based _ _ marked.2
    · cases marked
  · obtain ⟨mantissa, matched, rfl⟩ := Option.map_eq_some_iff.mp decimal
    have := mantissaLength?_pos matched
    omega

/-- A match takes a character at least. -/
theorem matchLength?_pos
    {terminal : Terminal}
    {length : Nat}
    (found : terminal.matchLength? text = some length) :
    0 < length := by
  cases terminal
  case name =>
      rw [Terminal.matchLength?, nameLength?.eq_def] at found
      split at found
      · cases found
      · rw [Option.ite_none_left_eq_some] at found
        cases found.2
        omega
  case number => exact numberLength?_pos found
  case string =>
      rw [Terminal.matchLength?, stringLength?.eq_def] at found
      split at found
      · rw [Option.ite_none_right_eq_some] at found
        obtain ⟨distance, _, rfl⟩ := Option.map_eq_some_iff.mp found.2
        omega
      · cases found
  case andWord | orWord | notWord | nilWord | trueWord | falseWord | ifWord | thenWord | elseWord
      | elseifWord => exact wordLength?_pos (by decide) found
  all_goals exact fixedLength?_pos (by decide) found

theorem matchLength?_of_longestToken?
    {expected : List Terminal}
    {terminal : Terminal}
    {length : Nat}
    (found : longestToken? expected text = some (terminal, length)) :
    terminal.matchLength? text = some length := by
  induction expected using List.reverseRecOn generalizing terminal length with
  | nil => cases found
  | append_singleton expected other ih =>
      rw [longestToken?_concat] at found
      split at found
      · exact ih found
      · cases found
        assumption
      · split at found <;> cases found
        · assumption
        · exact ih ‹_›

/-! ## Tokens in a text -/

/-- The column of a place in a text. -/
def columnAt (text : List Char) (place : Nat) : Nat := (text.take place).foldl nextColumn 1

/-- A token stands in a text: it holds the characters that its kind matches at a place, and the
columns of these characters. -/
structure Token.StandsAt (token : Token) (text : List Char) (place : Nat) : Prop where
  matched :
    ∃ length, token.terminal.matchLength? (text.drop place) = some length ∧
      token.lexeme = (text.drop place).take length
  columns : token.span = ⟨columnAt text place, stopColumn (columnAt text place) token.lexeme⟩

/-- Tokens with their places stand in a text one behind the other, and from a place on there is
nothing else but white space. -/
structure Covers (text : List Char) (start : Nat) (tokens : List (Nat × Token)) : Prop where
  stand : ∀ place token, (place, token) ∈ tokens → start ≤ place ∧ token.StandsAt text place
  apart : tokens.Pairwise fun earlier later =>
    earlier.1 < later.1 ∧ earlier.1 + earlier.2.lexeme.length ≤ later.1
  blank : ∀ place c, start ≤ place → text[place]? = some c →
    isSpace c = true ∨
      ∃ first token, (first, token) ∈ tokens ∧ first ≤ place ∧
        place < first + token.lexeme.length

theorem Covers.cons
    {place start : Nat}
    (later : Covers text start tokens)
    (stands : token.StandsAt text place)
    (longer : 0 < token.lexeme.length)
    (begins : start = place + token.lexeme.length) :
    Covers text place ((place, token) :: tokens) where
  stand other further member := by
    rcases List.mem_cons.mp member with same | behind
    · cases same
      exact ⟨Nat.le_refl place, stands⟩
    · have := later.stand other further behind
      exact ⟨by omega, this.2⟩
  apart := by
    refine List.pairwise_cons.mpr ⟨fun other member => ?_, later.apart⟩
    have := (later.stand other.1 other.2 member).1
    dsimp only
    omega
  blank other c behind found := by
    by_cases within : other < start
    · exact Or.inr ⟨place, token, List.mem_cons_self, behind, by omega⟩
    · rcases later.blank other c (by omega) found with space | ⟨first, holder, member, inside⟩
      · exact Or.inl space
      · exact Or.inr ⟨first, holder, List.mem_cons_of_mem _ member, inside⟩

/-- A place that belongs to white space, or to a token that was read before, may be left out. -/
theorem Covers.skip
    {start : Nat}
    (later : Covers text (start + 1) tokens)
    (space : ∀ c, text[start]? = some c → isSpace c = true) :
    Covers text start tokens where
  stand place token member := by
    have := later.stand place token member
    exact ⟨by omega, this.2⟩
  apart := later.apart
  blank place c behind found := by
    rcases Nat.eq_or_lt_of_le behind with rfl | after
    · exact Or.inl (space c found)
    · exact later.blank place c after found

theorem standsAt_of_nextToken?
    (found : nextToken? progress (before.foldl nextColumn 1) rest = some token) :
    token.StandsAt (before ++ rest) before.length ∧
      (rest ≠ [] → 0 < token.lexeme.length) := by
  obtain ⟨⟨terminal, length⟩, longest, rfl⟩ := Option.map_eq_some_iff.mp found
  have matched := matchLength?_of_longestToken? longest
  refine ⟨⟨⟨length, ?_, ?_⟩, ?_⟩, fun more => ?_⟩
  · rw [List.drop_left]
    exact matched
  · rw [List.drop_left]
  · rw [columnAt, List.take_left]
  · have some := matchLength?_pos matched
    have many := List.length_pos_iff.mpr more
    simp only [List.length_take]
    omega

/-- What is read is a list of tokens that stand in the text. -/
theorem covers_of_readTokens
    {pending : Nat}
    (read : readTokens progress (before.foldl nextColumn 1) pending rest = .ok final) :
    ∃ tokens : List (Nat × Token),
      Covers (before ++ rest) (before.length + pending) tokens ∧
        (tokens.map Prod.snd).foldlM Progress.step progress = some final := by
  induction rest generalizing before pending progress with
  | nil =>
      cases read
      refine ⟨[], ⟨by simp, .nil, fun place c behind found => ?_⟩, rfl⟩
      rw [List.append_nil, List.getElem?_eq_none (by omega)] at found
      cases found
  | cons c rest ih =>
      have split : before ++ c :: rest = (before ++ [c]) ++ rest := by simp
      have column : nextColumn (before.foldl nextColumn 1) c = (before ++ [c]).foldl nextColumn 1 :=
        by rw [List.foldl_append]; rfl
      cases pending with
      | succ pending =>
          rw [readTokens, column] at read
          obtain ⟨tokens, covers, steps⟩ := ih read
          rw [← split] at covers
          refine ⟨tokens, ?_, steps⟩
          rw [List.length_append, List.length_singleton] at covers
          rwa [show before.length + (pending + 1) = before.length + 1 + pending by omega]
      | zero =>
          rw [readTokens] at read
          split at read
          · rename_i token found
            obtain ⟨stands, longer⟩ := standsAt_of_nextToken? found
            replace longer := longer (List.cons_ne_nil c rest)
            split at read
            · rename_i stepped
              rw [column] at read
              obtain ⟨tokens, covers, steps⟩ := ih read
              rw [← split] at covers
              refine ⟨(before.length, token) :: tokens, covers.cons stands longer ?_, ?_⟩
              · rw [List.length_append, List.length_singleton]
                omega
              · rw [List.map_cons, List.foldlM_cons, stepped]
                exact steps
            · cases read
          · split at read
            · rename_i space
              rw [column] at read
              obtain ⟨tokens, covers, steps⟩ := ih read
              rw [← split, List.length_append] at covers
              refine ⟨tokens, covers.skip fun other found => ?_, steps⟩
              rw [List.getElem?_append_right (Nat.le_refl _), Nat.sub_self] at found
              cases found
              exact space
            · cases read

theorem readOperand_of_parse
    {source field : String}
    {tree : Expr}
    (parsed : parse source field = .ok tree) :
    ∃ whole, readOperand source.toList = .ok whole ∧ whole.tree = tree := by
  unfold parse at parsed
  split at parsed
  · cases parsed
  · split at parsed
    · cases parsed
    · split at parsed
      · cases parsed
      · rename_i whole read
        refine ⟨whole, read, ?_⟩
        unfold Operand.tree? at parsed
        split at parsed
        · split at parsed <;> cases parsed
        · split at parsed <;> cases parsed
          rfl

/-- An expression is read from tokens that are all of its text but white space. -/
theorem covers_of_readOperand
    (read : readOperand text = .ok operand) :
    ∃ tokens : List (Nat × Token),
      Covers text 0 tokens ∧
        ((tokens.map Prod.snd).foldlM Progress.step .start).bind Progress.finish? =
          some operand := by
  unfold readOperand at read
  split at read
  · cases read
  · rename_i final reached
    split at read <;> cases read
    rename_i finished
    have onset : readTokens .start (([] : List Char).foldl nextColumn 1) 0 text = .ok final :=
      reached
    obtain ⟨tokens, covers, steps⟩ := covers_of_readTokens onset
    exact ⟨tokens, covers, by rw [steps]; exact finished⟩

/-! ## Names that are read so far -/

attribute [grind =] Expr.names argumentNames fieldNames branchNames

theorem argumentNames_eq (arguments : List Expr) :
    argumentNames arguments = arguments.flatMap Expr.names := by
  induction arguments with
  | nil => rfl
  | cons argument others ih => rw [argumentNames, ih, List.flatMap_cons]

/-- The names that the key and the value of a table field read. -/
def TableField.names (field : TableField) : List NameUse := fieldNames [field]

/-- The names that a condition and its value read. -/
def Branch.names (branch : Branch) : List NameUse := branchNames [branch]

theorem fieldNames_eq (fields : List TableField) :
    fieldNames fields = fields.flatMap TableField.names := by
  induction fields with
  | nil => rfl
  | cons field others ih =>
      rw [List.flatMap_cons, ← ih]
      cases field <;> simp [TableField.names, fieldNames]

theorem branchNames_eq (branches : List Branch) :
    branchNames branches = branches.flatMap Branch.names := by
  induction branches with
  | nil => rfl
  | cons branch others ih =>
      rw [List.flatMap_cons, ← ih]
      cases branch
      simp [Branch.names, branchNames]

/-- The names that a callee reads. -/
@[grind =]
def Callee.names : Callee → List NameUse
  | .value callee => callee.tree.names
  | .method target _ => target.tree.names

/-- The names that the key of a field reads. -/
@[grind =]
def EntryKey.names : EntryKey → List NameUse
  | .keyed key => key.tree.names
  | _ => []

/-- The names that the complete branches of a choice read. -/
def doneNames (done : List (Operand × Operand)) : List NameUse :=
  done.reverse.flatMap fun branch => branch.1.tree.names ++ branch.2.tree.names

/-- The names that the complete parts of an open construct read. -/
@[grind =]
def Frame.names : Frame → List NameUse
  | .unary _ _ => []
  | .binary left _ => left.tree.names
  | .group => []
  | .index target => target.tree.names
  | .arguments callee done => callee.names ++ done.reverse.flatMap fun part => part.tree.names
  | .table _ done => done.reverse.flatMap fun entry => entry.tree.names
  | .key => []
  | .entry entryKey => entryKey.names
  | .condition _ done => doneNames done
  | .consequence _ done decided => doneNames done ++ decided.tree.names
  | .otherwise _ done => doneNames done

/-- The names that the open constructs read, in the order of the text. -/
def stackNames (frames : List Frame) : List NameUse := frames.reverse.flatMap Frame.names

/-- The names that the last operand reads. -/
@[grind =]
def Phase.names : Phase → List NameUse
  | .operand => []
  | .firstArgument => []
  | .field => []
  | .complete operand => operand.tree.names
  | .fieldName operand _ => operand.tree.names
  | .member target => target.tree.names
  | .methodName target => target.tree.names
  | .methodCall target _ => target.tree.names
  | .keyValue key => key.tree.names

/-- The names that are read so far, in the order of the text. -/
def Progress.names (progress : Progress) : List NameUse :=
  stackNames progress.frames ++ progress.phase.names

/-- The use of a name that a token can be. -/
def Token.uses (token : Token) : List NameUse :=
  if token.terminal = .name then [⟨token.text, token.span⟩] else []

@[simp]
theorem stackNames_nil : stackNames [] = [] := rfl

@[simp]
theorem stackNames_cons (frame : Frame) (outer : List Frame) :
    stackNames (frame :: outer) = stackNames outer ++ frame.names := by
  simp [stackNames]

@[simp]
theorem doneNames_cons (condition value : Operand) (done : List (Operand × Operand)) :
    doneNames ((condition, value) :: done) =
      doneNames done ++ (condition.tree.names ++ value.tree.names) := by
  simp [doneNames]

@[simp]
theorem names_unary (operator : UnaryOperator) (column : Nat) (operand : Operand) :
    (Operand.unary operator column operand).tree.names = operand.tree.names := rfl

@[simp]
theorem names_binary (operator : BinaryOperator) (left right : Operand) :
    (Operand.binary operator left right).tree.names = left.tree.names ++ right.tree.names := rfl

@[simp]
theorem names_entry (key : EntryKey) (value : Operand) :
    (Entry.mk key value).tree.names = key.names ++ value.tree.names := by
  cases key <;> simp [Entry.tree, TableField.names, fieldNames, EntryKey.names]

@[simp]
theorem names_call (callee : Callee) (arguments : List Operand) (stop : Nat) :
    (callee.call arguments stop).tree.names =
      callee.names ++ arguments.flatMap fun part => part.tree.names := by
  cases callee <;>
    simp [Callee.call, Operand.call, Operand.method, Operand.build, Expr.names, Callee.names,
      argumentNames_eq, List.flatMap_map]

@[simp]
theorem names_table (span : Span) (entries : List Entry) :
    (Operand.table span entries).tree.names = entries.flatMap fun entry => entry.tree.names := by
  simp [Operand.table, Operand.build, Expr.names, fieldNames_eq, List.flatMap_map]

@[simp]
theorem names_choice (column : Nat) (done : List (Operand × Operand)) (operand : Operand) :
    (Operand.choice column done.reverse operand).tree.names =
      doneNames done ++ operand.tree.names := by
  have same : ∀ branches : List (Operand × Operand),
      (branches.map fun branch => Branch.mk branch.1.tree branch.2.tree).flatMap Branch.names =
        branches.flatMap fun branch => branch.1.tree.names ++ branch.2.tree.names := by
    intro branches
    simp [List.flatMap_map, Branch.names, branchNames]
  rw [Operand.choice, Operand.build, Expr.names, branchNames_eq, same, doneNames]

/-! ## Steps keep names -/

/-- Completing operators moves names from the open constructs to the operand. -/
theorem names_fold (level : Nat) (frames : List Frame) (operand : Operand) :
    stackNames (fold level frames operand).1 ++ (fold level frames operand).2.tree.names =
      stackNames frames ++ operand.tree.names := by
  induction frames generalizing operand with
  | nil => rfl
  | cons frame outer ih =>
      cases frame with
      | unary operator column =>
          rw [fold]
          split
          · simp [ih, Frame.names]
          · rfl
      | binary left operator =>
          rw [fold]
          split
          · simp [ih, Frame.names]
          · rfl
      | _ => rfl

theorem names_close (frames : List Frame) (operand : Operand) :
    stackNames (close frames operand).1 ++ (close frames operand).2.tree.names =
      stackNames frames ++ operand.tree.names := by
  induction frames generalizing operand with
  | nil => rfl
  | cons frame outer ih =>
      cases frame with
      | unary operator column => simp [close, ih, Frame.names]
      | binary left operator => simp [close, ih, Frame.names]
      | otherwise column done => simp [close, ih, Frame.names]
      | _ => rfl

theorem Begins.names (begins : Begins frames token further) :
    further.names = stackNames frames ++ token.uses := by
  cases begins with
  | single alone =>
      unfold Token.operand? at alone
      split at alone <;> rename_i kind <;> cases alone
      case h_2 =>
          rw [Operand.number]
          split <;> simp [Progress.names, Phase.names, Token.uses, kind, Operand.leaf,
            Operand.build, Expr.names]
      all_goals simp [Progress.names, Phase.names, Token.uses, kind, Operand.leaf,
        Operand.string, Operand.build, Expr.names]
  | unary leading =>
      have other : token.terminal ≠ .name := by
        intro kind
        rw [Token.unary?, kind] at leading
        cases leading
      simp [Progress.names, Phase.names, Frame.names, Token.uses, other]
  | _ kind => simp [Progress.names, Phase.names, Frame.names, Token.uses, kind, doneNames]

theorem Closes.names (closes : Closes token frames operand further) :
    further.names = stackNames frames ++ operand.tree.names := by
  cases closes <;>
    simp [Progress.names, Phase.names, Frame.names, Operand.parenthesised, Operand.index,
      Operand.build, Expr.names]

theorem Continues.names (continues : Continues frames operand token further) :
    further.names = stackNames frames ++ operand.tree.names := by
  cases continues with
  | closing closes => rw [closes.names, names_close]
  | binary between => simp [Progress.names, Phase.names, Frame.names, names_fold]
  | _ kind => simp [Progress.names, Phase.names, Frame.names, Callee.names]

/-- A step reads at most the name that its token is; it can drop the name of a field. -/
theorem Moves.names (moves : Moves token progress further) :
    further.names.Sublist (progress.names ++ token.uses) := by
  have kept : ∀ {names : List NameUse}, further.names = names →
      names = progress.names → further.names.Sublist (progress.names ++ token.uses) := by
    rintro names first second
    rw [first, second]
    exact List.sublist_append_left _ _
  cases moves with
  | operand begins => rw [begins.names]; simp [Progress.names, Phase.names]
  | firstArgument begins => rw [begins.names]; simp [Progress.names, Phase.names]
  | positional _ begins =>
      rw [begins.names]
      simp [Progress.names, Phase.names, Frame.names, EntryKey.names]
  | named kind =>
      simp [Progress.names, Phase.names, Frame.names, EntryKey.names, Token.uses, kind,
        Operand.leaf, Operand.build, Expr.names]
  | complete continues => exact kept continues.names rfl
  | fieldName continues => exact kept continues.names rfl
  | nameField kind =>
      simp [Progress.names, Phase.names, Frame.names, EntryKey.names, List.append_assoc]
  | _ kind =>
      simp [Progress.names, Phase.names, Frame.names, Callee.names, EntryKey.names,
        Operand.field, Operand.build, Expr.names]

theorem names_of_steps
    {tokens : List Token}
    (steps : tokens.foldlM Progress.step progress = some final) :
    final.names.Sublist (progress.names ++ tokens.flatMap Token.uses) := by
  induction tokens generalizing progress with
  | nil =>
      cases steps
      simp
  | cons token tokens ih =>
      rw [List.foldlM_cons, Option.bind_eq_bind, Option.bind_eq_some_iff] at steps
      obtain ⟨further, stepped, steps⟩ := steps
      have here := (moves_of_step stepped).names.append_right (tokens.flatMap Token.uses)
      rw [List.flatMap_cons, ← List.append_assoc]
      exact (ih steps).trans here

/-- The names among tokens, each at the place of its token. -/
def namedPlaces (tokens : List (Nat × Token)) : List (Nat × NameUse) :=
  tokens.flatMap fun held => held.2.uses.map fun use => (held.1, use)

theorem map_snd_namedPlaces (tokens : List (Nat × Token)) :
    (namedPlaces tokens).map Prod.snd = (tokens.map Prod.snd).flatMap Token.uses := by
  simp [namedPlaces, List.map_flatMap, List.flatMap_map, Function.comp_def]

theorem mem_namedPlaces
    {place : Nat}
    {use : NameUse}
    (member : (place, use) ∈ namedPlaces tokens) :
    ∃ token, (place, token) ∈ tokens ∧ token.terminal = .name ∧ use = ⟨token.text, token.span⟩ := by
  obtain ⟨⟨first, token⟩, held, listed⟩ := List.mem_flatMap.mp member
  obtain ⟨other, used, same⟩ := List.mem_map.mp listed
  cases same
  rw [Token.uses] at used
  split at used
  · exact ⟨token, held, ‹_›, List.mem_singleton.mp used⟩
  · cases used

theorem Covers.namedPlaces_increasing
    {start : Nat}
    (covers : Covers text start tokens) :
    (namedPlaces tokens).Pairwise fun earlier later => earlier.1 < later.1 := by
  rw [namedPlaces, List.pairwise_flatMap]
  constructor
  · intro held _
    rw [Token.uses]
    split <;> simp
  · refine covers.apart.imp fun {earlier later} apart first here second there => ?_
    obtain ⟨_, _, rfl⟩ := List.mem_map.mp here
    obtain ⟨_, _, rfl⟩ := List.mem_map.mp there
    exact apart.1

theorem names_of_finish?
    (finished : progress.finish? = some operand) :
    operand.tree.names = progress.names := by
  unfold Progress.finish? at finished
  split at finished
  · rename_i last complete
    split at finished
    · rename_i whole closed
      cases finished
      have names := names_close progress.frames last
      rw [closed] at names
      simpa [Progress.names, Phase.names, complete] using names
    · cases finished
  · cases finished

end LuauNodes.Expression
