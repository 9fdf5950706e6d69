import LuauNodes.Node.Kind
import LuauNodes.Proofs.Expression.Roundtrip
import LuauNodes.Proofs.Expression.UndefinedNames

/-!
# Declared names in expressions

The names that nodes declare are those that expressions read, with one
exception.  The form of a declared name passes over a line break at its end,
which is white space to an expression.  The names of loop variables, set
variables and functions lose such a line break with the other blanks around
them; the name of a parameter keeps it.
-/

namespace LuauNodes

open LuauNodes.Expression LuauNodes.Text

variable {name field : String} {span : Span}

/-! ## Names and identifiers -/

/-- A text that ends with a line break. -/
def EndsLine (text : String) : Prop := text.toList.getLast? = some '\n'

instance (text : String) : Decidable (EndsLine text) := inferInstanceAs (Decidable (_ = _))

theorem isName_iff (name : String) :
    IsName name ↔ isDeclarableName name = true ∧ ¬EndsLine name := by
  constructor
  · intro named
    constructor
    · simp [isDeclarableName, isIdentifier, named.1, named.2]
    · intro ends
      have member : '\n' ∈ name.toList := List.mem_of_getLast? ends
      exact absurd (isNameChar_of_isName named member) (by decide)
  · rintro ⟨declarable, inner⟩
    simp only [isDeclarableName, isIdentifier, Bool.and_eq_true, Bool.or_eq_true, beq_iff_eq,
      Bool.not_eq_true'] at declarable
    obtain ⟨plain | ⟨ends, _⟩, free⟩ := declarable
    · exact ⟨plain, free⟩
    · exact absurd ends inner

theorem exists_parse_of_isName (named : IsName name) (field : String) :
    ∃ span, parse name field = .ok (.name span name) := by
  have written : Written 0 (.name default name) [.name name named] :=
    .bare (Nat.zero_le _) (.name named)
  have spaced : Spaced [.name name named] name.toList := by
    have none : IsGap [] := fun _ member => absurd member List.not_mem_nil
    have alone : Spaced [.name name named] ([] ++ (Piece.lexeme (.name name named) ++ [])) :=
      .mk none (.done none)
    simpa [Piece.lexeme] using alone
  obtain ⟨whole, read, means⟩ := readOperand_of_written written spaced
  have shallow : whole.height ≤ maxDepth := means.height.trans (Nat.le_of_ble_eq_true rfl)
  have parsed : parse name field = .ok whole.tree := by
    rw [parse, spaced.not_blank, textBalanceFault?_of_written written spaced, read]
    simp [Operand.tree?, means.sound, shallow]
  have plain := means.plain
  cases tree : whole.tree <;> rw [tree] at plain <;> simp [Expr.plain] at plain
  case name span found =>
    rw [parsed, tree, plain]
    exact ⟨span, rfl⟩

theorem nameLength?_le
    {text : List Char}
    {length : Nat}
    (matched : nameLength? text = some length) :
    length ≤ text.length := by
  unfold nameLength? at matched
  split at matched
  · cases matched
  · rename_i first rest
    rw [Option.ite_none_left_eq_some] at matched
    cases matched.2
    have shorter : (rest.takeWhile isNameChar).length ≤ rest.length :=
      (List.takeWhile_prefix isNameChar).length_le
    rw [List.length_cons]
    omega

theorem isName_of_nameLength?
    (matched : nameLength? name.toList = some name.toList.length) :
    IsName name := by
  unfold nameLength? at matched
  split at matched
  · cases matched
  · rename_i first rest characters
    rw [Option.ite_none_left_eq_some, Bool.or_eq_true, not_or] at matched
    obtain ⟨⟨start, free⟩, whole⟩ := matched
    have all : rest.takeWhile isNameChar = rest := by
      refine (List.takeWhile_prefix isNameChar).eq_of_length ?_
      have lengths := Option.some.inj whole
      rw [characters, List.length_cons] at lengths
      omega
    refine ⟨?_, ?_⟩
    · rw [characters, isPlainIdentifier, Bool.and_eq_true, List.all_eq_true]
      exact ⟨by simpa using start, List.takeWhile_eq_self_iff.mp all⟩
    · rw [isReserved, List.contains_eq_mem, decide_eq_false_iff_not]
      intro reserved
      refine free (List.any_eq_true.mpr ⟨name, reserved, ?_⟩)
      rw [beginsWithWord, List.isPrefixOf_iff_prefix.mpr (List.prefix_refl _),
        ← String.length_toList, List.drop_length]
      rfl

/-- A text that is read as an identifier of its own name is all one token. -/
theorem isName_of_parse (parsed : parse name field = .ok (.name span name)) : IsName name := by
  obtain ⟨found, identifies⟩ := exists_identifies parsed
  obtain ⟨tokens, _, covers, _, _, token⟩ := identifies.tokens
  obtain ⟨⟨place, use⟩, rfl, same⟩ := List.map_eq_singleton_iff.mp identifies.listed
  obtain ⟨token, held, kind, used⟩ := token place use List.mem_cons_self
  obtain ⟨length, matched, lexeme⟩ := (covers.stand place token held).2.matched
  have whole : token.lexeme = name.toList := by
    have named : name = token.text := congrArg NameUse.name (same.symm.trans used)
    rw [named, Token.text, String.toList_ofList]
  rw [kind] at matched
  have some := matchLength?_pos matched
  rw [Terminal.matchLength?] at matched
  rw [whole] at lexeme
  have within := nameLength?_le matched
  have lengths := congrArg List.length lexeme
  rw [List.length_take] at lengths
  rw [List.length_drop] at within lengths
  obtain rfl : place = 0 := by omega
  obtain rfl : length = name.toList.length := by omega
  exact isName_of_nameLength? matched

/-! ## Declared symbols -/

/-- A name can be written in an expression: it is read as an identifier of that very name, which
is in sight where the name is. -/
structure Readable (name : String) : Prop where
  identifier : ∀ field, ∃ span, parse name field = .ok (.name span name)
  inSight : ∀ field visible socketId, name ∈ visible → check name field (some visible) socketId = []

theorem readable_of_isName (named : IsName name) : Readable name where
  identifier := exists_parse_of_isName named
  inSight field visible socketId member := by
    obtain ⟨span, parsed⟩ := exists_parse_of_isName named field
    have known : isKnown visible name = true := by simp [isKnown, member]
    have shallow : (Expr.name span name).reach ≤ maxReach := by
      simp [Expr.reach, maxReach, maxDepth]
    simp [check, parsed, shallow, Expr.names, unknownNames, known]

theorem not_endsLine_of_stripped (stripped : strip name = name) : ¬EndsLine name := by
  intro ends
  rw [EndsLine, ← stripped, strip, String.toList_ofList, trimBy, List.getLast?_reverse]
    at ends
  have kept := List.head?_dropWhile_not isBlank (name.toList.dropWhile isBlank).reverse
  rw [ends] at kept
  exact absurd kept (by decide)

theorem strip_of_mem_loopVariables
    {config : ForLoopConfig}
    (member : name ∈ config.loopVariables) :
    strip name = name := by
  unfold ForLoopConfig.loopVariables at member
  have single : strip (if (strip config.variableName).isEmpty
      then ForLoopConfig.defaultVariable else strip config.variableName) =
        if (strip config.variableName).isEmpty
          then ForLoopConfig.defaultVariable else strip config.variableName := by
    split
    · decide +kernel
    · exact strip_strip _
  dsimp only at member
  split at member
  · rw [List.mem_singleton.mp member]
    exact single
  · obtain ⟨part, _, rfl⟩ := List.mem_map.mp (List.mem_of_mem_filter member)
    exact strip_strip part

namespace Shape

variable {symbol : Symbol} {context : SocketContext}

/-- The names inside a node's own scope are names that can be written; only that of a parameter can
end with a line break. -/
theorem isName_of_mem_scopeSymbols
    (shape : Shape)
    (config : shape.Config)
    (member : symbol ∈ shape.scopeSymbols config) :
    IsName symbol.name ∨ shape = .functionDefinition ∧ EndsLine symbol.name := by
  cases shape with
  | forLoop =>
      obtain ⟨name, listed, rfl⟩ := List.mem_map.mp member
      obtain ⟨looped, declarable⟩ := List.mem_filter.mp listed
      have inner := not_endsLine_of_stripped (strip_of_mem_loopVariables looped)
      exact Or.inl ((isName_iff _).mpr ⟨declarable, inner⟩)
  | functionDefinition =>
      obtain ⟨parameter, listed, rfl⟩ := List.mem_map.mp member
      have declarable := (List.mem_filter.mp listed).2
      by_cases ends : EndsLine parameter.name
      · exact Or.inr ⟨rfl, ends⟩
      · exact Or.inl ((isName_iff _).mpr ⟨declarable, ends⟩)
  | _ => cases member

/-- The name that a node declares around itself can be written. -/
theorem isName_of_declaredSymbol
    (shape : Shape)
    (config : shape.Config)
    (declared : shape.declaredSymbol config context = some symbol) :
    IsName symbol.name := by
  cases shape with
  | variableSet | functionDefinition =>
      simp only [declaredSymbol, Option.ite_none_right_eq_some, Option.some.injEq] at declared
      obtain ⟨declarable, rfl⟩ := declared
      exact (isName_iff _).mpr ⟨declarable, not_endsLine_of_stripped (strip_strip _)⟩
  | _ => cases declared

end Shape

/-- A text is read as an identifier of its own name exactly if it may name a symbol and does not
end with a line break.  So is the name of whatever a node declares, unless it is a parameter whose
name ends with one. -/
theorem readable_iff_declarable
    (name field : String)
    (kind : NodeKind)
    (stored : Json)
    (context : SocketContext) :
    ((∃ span, parse name field = .ok (.name span name)) ↔
      isDeclarableName name = true ∧ ¬EndsLine name) ∧
    (∀ symbol ∈ kind.scopeSymbols stored,
      Readable symbol.name ∨ kind.shape = .functionDefinition ∧ EndsLine symbol.name) ∧
    ∀ symbol ∈ kind.declaredSymbol stored context, Readable symbol.name := by
  refine ⟨?_, fun symbol member => ?_, fun symbol declared => ?_⟩
  · rw [← isName_iff]
    constructor
    · rintro ⟨span, parsed⟩
      exact isName_of_parse parsed
    · exact fun named => exists_parse_of_isName named field
  · exact (kind.shape.isName_of_mem_scopeSymbols _ member).imp_left readable_of_isName
  · exact readable_of_isName (kind.shape.isName_of_declaredSymbol _ declared)

/-- A for loop whose variable is written with blanks around it. -/
def paddedLoop : Json := .object [("variableName", .text " count\n")]

/-- A function whose parameter ends with a line break. -/
def brokenParameter : Json :=
  .object
    [("functionName", .text "f"), ("parameters", .list [.object [("name", .text "x\n")]])]

theorem readable_paddedLoop :
    (∃ span, parse "count" "value" = .ok (.name span "count")) ∧
      (NodeKind.plain "Control Flow" "ForLoop" "For Loop" "" .forLoop).scopeSymbols paddedLoop =
        [{ Symbol.ofVariable "count" .number with description := some "Loop variable" }] ∧
      Readable "count" := by
  have looped : (NodeKind.plain "Control Flow" "ForLoop" "For Loop" "" .forLoop).scopeSymbols
      paddedLoop = [{ Symbol.ofVariable "count" .number with
        description := some "Loop variable" }] := by
    rfl
  obtain ⟨named, placed, _⟩ := readable_iff_declarable "count" "value"
    (.plain "Control Flow" "ForLoop" "For Loop" "" .forLoop) paddedLoop .empty
  refine ⟨named.mpr (by decide), looped, ?_⟩
  rcases placed _ (looped ▸ List.mem_cons_self) with readable | ⟨_, ends⟩
  · exact readable
  · exact absurd ends (by decide)

theorem brokenParameter_not_readable :
    ((NodeKind.plain "Functions" "FunctionDefinition" "Function Definition" ""
      .functionDefinition).scopeSymbols brokenParameter).map Symbol.name = ["x\n"] ∧
      isDeclarableName "x\n" = true ∧
      parse "x\n" "value" = .ok (.name ⟨1, 2⟩ "x") ∧
      ¬∃ span, parse "x\n" "value" = .ok (.name span "x\n") := by
  have read : parse "x\n" "value" = .ok (.name ⟨1, 2⟩ "x") := rfl
  refine ⟨rfl, by decide, read, ?_⟩
  rintro ⟨span, same⟩
  rw [read, Except.ok.injEq, Expr.name.injEq] at same
  exact absurd same.2 (by decide)

end LuauNodes
