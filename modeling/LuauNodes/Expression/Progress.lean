import LuauNodes.Expression.Operand

/-!
# Progress of reading an expression

What a reader knows after part of an expression: the constructs that are still
open, innermost first, and what may come next.  From these follow the terminals
that fit, and how one of them continues the reading.  Operators wait on the
stack until one that binds less tightly, or a closing token, completes their
right operand.
-/

namespace LuauNodes.Expression

/-- What is called: a value, or a method of one. -/
inductive Callee where
  | value (callee : Operand)
  | method (target : Operand) (name : String)

/-- A construct that is still open. -/
inductive Frame where
  | unary (operator : UnaryOperator) (column : Nat)
  | binary (left : Operand) (operator : BinaryOperator)
  | group
  | index (target : Operand)
  | arguments (callee : Callee) (done : List Operand)
  | table (column : Nat) (done : List Entry)
  | key
  | entry (key : EntryKey)
  | condition (column : Nat) (done : List (Operand × Operand))
  | consequence (column : Nat) (done : List (Operand × Operand)) (condition : Operand)
  | otherwise (column : Nat) (done : List (Operand × Operand))

/-- What may come next. -/
inductive Phase where
  /-- An operand begins. -/
  | operand
  /-- The first argument begins, or there is none. -/
  | firstArgument
  /-- A table field begins, or the table ends. -/
  | field
  /-- An operand is complete. -/
  | complete (operand : Operand)
  /-- A name stands at the start of a table field: an operand, or the name of the field. -/
  | fieldName (operand : Operand) (name : String)
  /-- A dot wants the name of a field. -/
  | member (target : Operand)
  /-- A colon wants the name of a method. -/
  | methodName (target : Operand)
  /-- The name of a method wants arguments. -/
  | methodCall (target : Operand) (name : String)
  /-- A key in brackets wants its value. -/
  | keyValue (key : Operand)

/-- The open constructs and what may come next. -/
structure Progress where
  frames : List Frame
  phase : Phase

/-- The progress before the first token. -/
def Progress.start : Progress := ⟨[], .operand⟩

/-- A token: its kind, its characters and its columns. -/
structure Token where
  terminal : Terminal
  lexeme : List Char
  span : Span

/-- The characters of a token as a text. -/
def Token.text (token : Token) : String := String.ofList token.lexeme

/-! ## Completing operands -/

/-- Completes the operators on the stack that bind at least as tightly as the given level. -/
def fold (level : Nat) : List Frame → Operand → List Frame × Operand
  | .unary operator column :: outer, operand =>
    if level ≤ unaryLevel then fold level outer (.unary operator column operand)
    else (.unary operator column :: outer, operand)
  | .binary left operator :: outer, operand =>
    if level ≤ operator.level then fold level outer (.binary operator left operand)
    else (.binary left operator :: outer, operand)
  | frames, operand => (frames, operand)

/-- Completes everything that a closing token ends: operators and last values of choices. -/
def close : List Frame → Operand → List Frame × Operand
  | .unary operator column :: outer, operand => close outer (.unary operator column operand)
  | .binary left operator :: outer, operand => close outer (.binary operator left operand)
  | .otherwise column done :: outer, operand =>
    close outer (.choice column done.reverse operand)
  | frames, operand => (frames, operand)

/-! ## What fits -/

/-- A choice cannot stand as the operand of an operator. -/
def admitsChoice : List Frame → Bool
  | .unary _ _ :: _ => false
  | .binary _ _ :: _ => false
  | _ => true

/-- The terminals that begin an operand. -/
def operandStarts (frames : List Frame) : List Terminal :=
  [.name, .number, .string, .nilWord, .trueWord, .falseWord, .openParen, .openBrace, .notWord,
   .minus, .hash] ++ if admitsChoice frames then [.ifWord] else []

/-- The terminals that close the innermost construct that wants one. -/
def closers : List Frame → List Terminal
  | [] => []
  | frame :: outer =>
    match frame with
    | .unary _ _ | .binary _ _ | .otherwise _ _ => closers outer
    | .group => [.closeParen]
    | .index _ | .key => [.closeBracket]
    | .arguments _ _ => [.comma, .closeParen]
    | .entry _ => [.comma, .semicolon, .closeBrace]
    | .condition _ _ => [.thenWord]
    | .consequence _ _ _ => [.elseifWord, .elseWord]
    | .table _ _ => []

/-- The terminals that continue a complete operand. -/
def operandContinuations : List Terminal :=
  [.dot, .openBracket, .openParen, .colon, .power, .product, .plus, .minus, .concat, .comparison,
   .andWord, .orWord]

/-- The terminals that may come next. -/
def Progress.expected (progress : Progress) : List Terminal :=
  match progress.phase with
  | .operand => operandStarts progress.frames
  | .firstArgument => .closeParen :: operandStarts progress.frames
  | .field => .closeBrace :: .openBracket :: operandStarts progress.frames
  | .complete _ => operandContinuations ++ closers progress.frames
  | .fieldName _ _ => .equals :: (operandContinuations ++ closers progress.frames)
  | .member _ => [.name]
  | .methodName _ => [.name]
  | .methodCall _ _ => [.openParen]
  | .keyValue _ => [.equals]

/-! ## One token further -/

/-- The operand that a token is by itself. -/
def Token.operand? (token : Token) : Option Operand :=
  match token.terminal with
  | .name => some (.leaf (.name token.span token.text))
  | .number => some (.number token.span token.lexeme)
  | .string => some (.string token.span token.lexeme)
  | .nilWord => some (.leaf (.nil token.span))
  | .trueWord => some (.leaf (.boolean token.span true))
  | .falseWord => some (.leaf (.boolean token.span false))
  | _ => none

/-- The unary operator that a token is in front of an operand. -/
def Token.unary? (token : Token) : Option UnaryOperator :=
  match token.terminal with
  | .notWord => some .logicalNot
  | .minus => some .negate
  | .hash => some .length
  | _ => none

/-- The binary operator that a token is behind an operand. -/
def Token.binary? (token : Token) : Option BinaryOperator :=
  match token.terminal with
  | .orWord | .andWord | .comparison | .concat | .plus | .minus | .product | .power =>
    BinaryOperator.ofSymbol? token.text
  | _ => none

/-- The level down to which an incoming operator completes those before it; the power completes
none, so that it groups to the right. -/
def BinaryOperator.foldLevel (operator : BinaryOperator) : Nat :=
  if operator = .power then operator.level + 1 else operator.level

/-- Begins an operand. -/
def stepOperand (frames : List Frame) (token : Token) : Option Progress :=
  match token.operand?, token.unary? with
  | some operand, _ => some ⟨frames, .complete operand⟩
  | none, some operator => some ⟨.unary operator token.span.first :: frames, .operand⟩
  | none, none =>
    match token.terminal with
    | .openParen => some ⟨.group :: frames, .operand⟩
    | .openBrace => some ⟨.table token.span.first [] :: frames, .field⟩
    | .ifWord =>
      if admitsChoice frames then some ⟨.condition token.span.first [] :: frames, .operand⟩
      else none
    | _ => none

/-- Completes a call. -/
def Callee.call (callee : Callee) (arguments : List Operand) (stop : Nat) : Operand :=
  match callee with
  | .value callee => .call callee arguments stop
  | .method target name => .method target name arguments stop

/-- Closes the innermost construct that wants a closing token, with its last operand. -/
def stepClose (frames : List Frame) (operand : Operand) (token : Token) : Option Progress :=
  let stop := token.span.stop
  match close frames operand with
  | (.group :: outer, inner) =>
    match token.terminal with
    | .closeParen => some ⟨outer, .complete inner.parenthesised⟩
    | _ => none
  | (.index target :: outer, key) =>
    match token.terminal with
    | .closeBracket => some ⟨outer, .complete (.index target key stop)⟩
    | _ => none
  | (.key :: outer, key) =>
    match token.terminal with
    | .closeBracket => some ⟨outer, .keyValue key⟩
    | _ => none
  | (.arguments callee done :: outer, argument) =>
    match token.terminal with
    | .comma => some ⟨.arguments callee (argument :: done) :: outer, .operand⟩
    | .closeParen => some ⟨outer, .complete (callee.call (argument :: done).reverse stop)⟩
    | _ => none
  | (.entry key :: .table column done :: outer, value) =>
    let entries := Entry.mk key value :: done
    match token.terminal with
    | .comma | .semicolon => some ⟨.table column entries :: outer, .field⟩
    | .closeBrace => some ⟨outer, .complete (.table ⟨column, stop⟩ entries.reverse)⟩
    | _ => none
  | (.condition column done :: outer, condition) =>
    match token.terminal with
    | .thenWord => some ⟨.consequence column done condition :: outer, .operand⟩
    | _ => none
  | (.consequence column done condition :: outer, value) =>
    let branches := (condition, value) :: done
    match token.terminal with
    | .elseifWord => some ⟨.condition column branches :: outer, .operand⟩
    | .elseWord => some ⟨.otherwise column branches :: outer, .operand⟩
    | _ => none
  | _ => none

/-- Continues after a complete operand. -/
def stepComplete (frames : List Frame) (operand : Operand) (token : Token) : Option Progress :=
  match token.terminal with
  | .dot => some ⟨frames, .member operand⟩
  | .colon => some ⟨frames, .methodName operand⟩
  | .openBracket => some ⟨.index operand :: frames, .operand⟩
  | .openParen => some ⟨.arguments (.value operand) [] :: frames, .firstArgument⟩
  | _ =>
    match token.binary? with
    | some operator =>
      let (outer, left) := fold operator.foldLevel frames operand
      some ⟨.binary left operator :: outer, .operand⟩
    | none => stepClose frames operand token

/-- Begins a table field, or ends the table. -/
def stepField (frames : List Frame) (token : Token) : Option Progress :=
  match token.terminal with
  | .closeBrace =>
    match frames with
    | .table column done :: outer =>
      some ⟨outer, .complete (.table ⟨column, token.span.stop⟩ done.reverse)⟩
    | _ => none
  | .openBracket => some ⟨.key :: frames, .operand⟩
  | .name =>
    some ⟨.entry .positional :: frames,
      .fieldName (.leaf (.name token.span token.text)) token.text⟩
  | _ => stepOperand (.entry .positional :: frames) token

/-- The progress after one more token, if that fits. -/
def Progress.step (progress : Progress) (token : Token) : Option Progress :=
  let frames := progress.frames
  match progress.phase with
  | .operand => stepOperand frames token
  | .firstArgument =>
    match token.terminal, frames with
    | .closeParen, .arguments callee done :: outer =>
      some ⟨outer, .complete (callee.call done.reverse token.span.stop)⟩
    | _, _ => stepOperand frames token
  | .field => stepField frames token
  | .complete operand => stepComplete frames operand token
  | .fieldName operand name =>
    match token.terminal, frames with
    | .equals, .entry _ :: outer => some ⟨.entry (.named name) :: outer, .operand⟩
    | _, _ => stepComplete frames operand token
  | .member target =>
    match token.terminal with
    | .name => some ⟨frames, .complete (.field target token.text token.span.stop)⟩
    | _ => none
  | .methodName target =>
    match token.terminal with
    | .name => some ⟨frames, .methodCall target token.text⟩
    | _ => none
  | .methodCall target name =>
    match token.terminal with
    | .openParen => some ⟨.arguments (.method target name) [] :: frames, .firstArgument⟩
    | _ => none
  | .keyValue key =>
    match token.terminal with
    | .equals => some ⟨.entry (.keyed key) :: frames, .operand⟩
    | _ => none

/-- The operand that the whole text is, if nothing is missing. -/
def Progress.finish? (progress : Progress) : Option Operand :=
  match progress.phase with
  | .complete operand =>
    match close progress.frames operand with
    | ([], whole) => some whole
    | _ => none
  | _ => none

end LuauNodes.Expression
