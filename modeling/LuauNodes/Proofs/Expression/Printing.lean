import LuauNodes.Expression.Parse
import Mathlib.Data.Nat.Digits.Defs

/-!
# Printed expressions

How a tree may be written.  A printer goes by the levels of the grammar: an
operand stands bare where its level is high enough for its place, and in
parentheses where it is not.  What is left to the printer is left open here: the
base of a number and its separators, the quotes of a string, the separators of
table fields, and the white space between tokens.  So printing is a relation
between trees and texts.
-/

namespace LuauNodes.Expression

/-! ## Tokens as they are written -/

/-- A text that names something and is not reserved. -/
def IsName (name : String) : Prop :=
  isPlainIdentifier name.toList = true ∧ isReserved name = false

instance (name : String) : Decidable (IsName name) :=
  inferInstanceAs (Decidable (_ ∧ _))

/-- The weight of a digit, ten and more for letters in either case. -/
def digitWeight (c : Char) : Nat :=
  min ("0123456789abcdef".toList.idxOf c) ("0123456789ABCDEF".toList.idxOf c)

/-- The characters of a number without the separators. -/
def bareDigits (written : List Char) : List Char := written.filter (· ≠ '_')

/-- Digits of a base with separators between them, and at least one digit. -/
structure IsDigits (base : Nat) (written : List Char) : Prop where
  members : ∀ c ∈ written, c = '_' ∨ digitWeight c < base
  nonempty : bareDigits written ≠ []

/-- The number that digits of a base denote. -/
def digitsDenote (base : Nat) (written : List Char) : Nat :=
  Nat.ofDigits base ((bareDigits written).reverse.map digitWeight)

/-- How a whole number may be written. -/
inductive Numbering : Nat → List Char → Prop where
  | decimal
      {written : List Char}
      (digits : IsDigits 10 written)
      (start : written.head? ≠ some '_')
      (limited : (bareDigits written).length ≤ Number.maxDigits) :
      Numbering (digitsDenote 10 written) written
  | hexadecimal
      {mark : Char}
      {written : List Char}
      (marked : mark = 'x' ∨ mark = 'X')
      (digits : IsDigits 16 written) :
      Numbering (digitsDenote 16 written) ('0' :: mark :: written)
  | binary
      {mark : Char}
      {written : List Char}
      (marked : mark = 'b' ∨ mark = 'B')
      (digits : IsDigits 2 written) :
      Numbering (digitsDenote 2 written) ('0' :: mark :: written)

/-- What may stand between two quotes of a kind. -/
inductive IsBody (quote : Char) : List Char → Prop where
  | nil : IsBody quote []
  | escape
      {escaped : Char}
      {rest : List Char}
      (sameLine : escaped ≠ '\n')
      (body : IsBody quote rest) :
      IsBody quote ('\\' :: escaped :: rest)
  | plain
      {c : Char}
      {rest : List Char}
      (inside : c ≠ quote)
      (unescaped : c ≠ '\\')
      (sameLine : quote ≠ backQuote → c ≠ '\n')
      (body : IsBody quote rest) :
      IsBody quote (c :: rest)

/-- The texts of a terminal that has fixed ones. -/
def Terminal.texts : Terminal → List String
  | .name | .number | .string => []
  | .openParen => ["("]
  | .closeParen => [")"]
  | .openBracket => ["["]
  | .closeBracket => ["]"]
  | .openBrace => ["\x7b"]
  | .closeBrace => ["\x7d"]
  | .comma => [","]
  | .semicolon => [";"]
  | .dot => ["."]
  | .colon => [":"]
  | .equals => ["="]
  | .comparison => ["==", "~=", "<=", ">=", "<", ">"]
  | .concat => [".."]
  | .plus => ["+"]
  | .minus => ["-"]
  | .product => ["//", "*", "/", "%"]
  | .power => ["^"]
  | .hash => ["#"]
  | .andWord => ["and"]
  | .orWord => ["or"]
  | .notWord => ["not"]
  | .nilWord => ["nil"]
  | .trueWord => ["true"]
  | .falseWord => ["false"]
  | .ifWord => ["if"]
  | .thenWord => ["then"]
  | .elseWord => ["else"]
  | .elseifWord => ["elseif"]

/-- A token as a printer writes it. -/
inductive Piece where
  | name (name : String) (named : IsName name)
  | number (value : Nat) (written : List Char) (numbering : Numbering value written)
  | string (quote : Char) (body : List Char) (quoting : isQuote quote = true)
    (inside : IsBody quote body)
  | fixed (terminal : Terminal) (text : String) (known : text ∈ terminal.texts)

/-- The kind of a unary operator's token. -/
def UnaryOperator.terminal : UnaryOperator → Terminal
  | logicalNot => .notWord
  | negate => .minus
  | length => .hash

/-- The kind of a binary operator's token. -/
def BinaryOperator.terminal : BinaryOperator → Terminal
  | or => .orWord
  | and => .andWord
  | equal | notEqual | atMost | atLeast | less | greater => .comparison
  | concat => .concat
  | add => .plus
  | subtract => .minus
  | multiply | divide | floorDivide | modulo => .product
  | power => .power

/-- The token of a unary operator. -/
def Piece.unary (operator : UnaryOperator) : Piece :=
  .fixed operator.terminal operator.symbol (by cases operator <;> decide)

/-- The token of a binary operator. -/
def Piece.binary (operator : BinaryOperator) : Piece :=
  .fixed operator.terminal operator.symbol (by cases operator <;> decide)

/-- The kind of a written token. -/
def Piece.terminal : Piece → Terminal
  | name _ _ => .name
  | number _ _ _ => .number
  | string _ _ _ _ => .string
  | fixed terminal _ _ => terminal

/-- The characters of a written token. -/
def Piece.lexeme : Piece → List Char
  | name text _ => text.toList
  | number _ written _ => written
  | string quote body _ _ => quote :: (body ++ [quote])
  | fixed _ text _ => text.toList

/-! ## Levels -/

/-- The level of the grammar on which a binary operator stands; lower levels bind more loosely. -/
def BinaryOperator.rank : BinaryOperator → Nat
  | or => 1
  | and => 2
  | equal | notEqual | atMost | atLeast | less | greater => 3
  | concat => 4
  | add | subtract => 5
  | multiply | divide | floorDivide | modulo => 6
  | power => 8

/-- The level of the unary operators, between the products and the power. -/
def unaryRank : Nat := 7

/-- The level of names, literals, tables, and what is read from, called on or put in parentheses. -/
def postfixRank : Nat := 9

/-- The level that the left operand of an operator needs: a chain of one level groups to the
left, and the power has a base without operators. -/
def BinaryOperator.leftRank : BinaryOperator → Nat
  | power => postfixRank
  | operator => operator.rank

/-- The level that the right operand of an operator needs: the power groups to the right. -/
def BinaryOperator.rightRank : BinaryOperator → Nat
  | power => unaryRank
  | operator => operator.rank + 1

/-- The level of a tree.  A choice stands only where any expression may stand. -/
def Expr.rank : Expr → Nat
  | .choice _ _ _ => 0
  | .binary _ operator _ _ => operator.rank
  | .unary _ _ _ => unaryRank
  | _ => postfixRank

/-! ## Trees as they are written -/

mutual

/-- What a printer writes for a tree where a level is needed. -/
inductive Written : Nat → Expr → List Piece → Prop where
  | bare
      {rank : Nat}
      {tree : Expr}
      {pieces : List Piece}
      (fits : rank ≤ tree.rank)
      (spelled : Spelled tree pieces) :
      Written rank tree pieces
  | grouped
      {rank : Nat}
      {tree : Expr}
      {pieces : List Piece}
      (low : tree.rank < rank)
      (spelled : Spelled tree pieces) :
      Written rank tree
        (.fixed .openParen "(" (by decide) :: (pieces ++ [.fixed .closeParen ")" (by decide)]))

/-- What a printer writes for a tree without parentheses around it. -/
inductive Spelled : Expr → List Piece → Prop where
  | name
      {span : Span}
      {name : String}
      (named : IsName name) :
      Spelled (.name span name) [.name name named]
  | number
      {span : Span}
      {value : Nat}
      {written : List Char}
      (numbering : Numbering value written) :
      Spelled (.number span (.whole value)) [.number value written numbering]
  | string
      {span : Span}
      {quote : Char}
      {body : List Char}
      (quoting : isQuote quote = true)
      (inside : IsBody quote body) :
      Spelled (.string span (String.ofList body)) [.string quote body quoting inside]
  | true {span : Span} : Spelled (.boolean span true) [.fixed .trueWord "true" (by decide)]
  | false {span : Span} : Spelled (.boolean span false) [.fixed .falseWord "false" (by decide)]
  | nil {span : Span} : Spelled (.nil span) [.fixed .nilWord "nil" (by decide)]
  | unary
      {span : Span}
      {operator : UnaryOperator}
      {operand : Expr}
      {pieces : List Piece}
      (written : Written unaryRank operand pieces) :
      Spelled (.unary span operator operand) (.unary operator :: pieces)
  | binary
      {span : Span}
      {operator : BinaryOperator}
      {left right : Expr}
      {leftPieces rightPieces : List Piece}
      (leftWritten : Written operator.leftRank left leftPieces)
      (rightWritten : Written operator.rightRank right rightPieces) :
      Spelled (.binary span operator left right)
        (leftPieces ++ .binary operator :: rightPieces)
  | field
      {span : Span}
      {target : Expr}
      {name : String}
      {pieces : List Piece}
      (written : Written postfixRank target pieces)
      (named : IsName name) :
      Spelled (.field span target name)
        (pieces ++ [.fixed .dot "." (by decide), .name name named])
  | index
      {span : Span}
      {target key : Expr}
      {pieces keyPieces : List Piece}
      (written : Written postfixRank target pieces)
      (keyWritten : Written 0 key keyPieces) :
      Spelled (.index span target key)
        (pieces ++ .fixed .openBracket "[" (by decide) ::
          (keyPieces ++ [.fixed .closeBracket "]" (by decide)]))
  | call
      {span : Span}
      {callee : Expr}
      {arguments : List Expr}
      {pieces argumentPieces : List Piece}
      (written : Written postfixRank callee pieces)
      (argumentsWritten : WrittenArguments arguments argumentPieces) :
      Spelled (.call span callee arguments)
        (pieces ++ .fixed .openParen "(" (by decide) ::
          (argumentPieces ++ [.fixed .closeParen ")" (by decide)]))
  | method
      {span : Span}
      {target : Expr}
      {name : String}
      {arguments : List Expr}
      {pieces argumentPieces : List Piece}
      (written : Written postfixRank target pieces)
      (named : IsName name)
      (argumentsWritten : WrittenArguments arguments argumentPieces) :
      Spelled (.method span target name arguments)
        (pieces ++ .fixed .colon ":" (by decide) :: .name name named ::
          .fixed .openParen "(" (by decide) ::
            (argumentPieces ++ [.fixed .closeParen ")" (by decide)]))
  | table
      {span : Span}
      {fields : List TableField}
      {pieces : List Piece}
      (written : WrittenFields fields pieces) :
      Spelled (.table span fields)
        (.fixed .openBrace "\x7b" (by decide) ::
          (pieces ++ [.fixed .closeBrace "\x7d" (by decide)]))
  | choice
      {span : Span}
      {first : Branch}
      {others : List Branch}
      {otherwise : Expr}
      {pieces otherPieces otherwisePieces : List Piece}
      (written : WrittenBranch first pieces)
      (othersWritten : WrittenBranches others otherPieces)
      (otherwiseWritten : Written 0 otherwise otherwisePieces) :
      Spelled (.choice span (first :: others) otherwise)
        (.fixed .ifWord "if" (by decide) ::
          (pieces ++ (otherPieces ++ .fixed .elseWord "else" (by decide) :: otherwisePieces)))

/-- What a printer writes between the parentheses of a call. -/
inductive WrittenArguments : List Expr → List Piece → Prop where
  | none : WrittenArguments [] []
  | some
      {first : Expr}
      {others : List Expr}
      {pieces otherPieces : List Piece}
      (written : Written 0 first pieces)
      (othersWritten : FurtherArguments others otherPieces) :
      WrittenArguments (first :: others) (pieces ++ otherPieces)

/-- What a printer writes for the arguments after the first one. -/
inductive FurtherArguments : List Expr → List Piece → Prop where
  | none : FurtherArguments [] []
  | some
      {next : Expr}
      {others : List Expr}
      {pieces otherPieces : List Piece}
      (written : Written 0 next pieces)
      (othersWritten : FurtherArguments others otherPieces) :
      FurtherArguments (next :: others)
        (.fixed .comma "," (by decide) :: (pieces ++ otherPieces))

/-- What a printer writes for a table field. -/
inductive WrittenField : TableField → List Piece → Prop where
  | keyed
      {key value : Expr}
      {keyPieces pieces : List Piece}
      (keyWritten : Written 0 key keyPieces)
      (written : Written 0 value pieces) :
      WrittenField (.keyed key value)
        (.fixed .openBracket "[" (by decide) ::
          (keyPieces ++
            .fixed .closeBracket "]" (by decide) :: .fixed .equals "=" (by decide) :: pieces))
  | named
      {name : String}
      {value : Expr}
      {pieces : List Piece}
      (named : IsName name)
      (written : Written 0 value pieces) :
      WrittenField (.named name value)
        (.name name named :: .fixed .equals "=" (by decide) :: pieces)
  | positional
      {value : Expr}
      {pieces : List Piece}
      (written : Written 0 value pieces) :
      WrittenField (.positional value) pieces

/-- What a printer writes between the braces of a table: a comma or a semicolon stands between
fields and may stand behind the last one. -/
inductive WrittenFields : List TableField → List Piece → Prop where
  | none : WrittenFields [] []
  | last
      {field : TableField}
      {pieces : List Piece}
      (written : WrittenField field pieces) :
      WrittenFields [field] pieces
  | more
      {field : TableField}
      {others : List TableField}
      {pieces otherPieces : List Piece}
      {separator : Piece}
      (written : WrittenField field pieces)
      (separating :
        separator = .fixed .comma "," (by decide) ∨ separator = .fixed .semicolon ";" (by decide))
      (othersWritten : WrittenFields others otherPieces) :
      WrittenFields (field :: others) (pieces ++ separator :: otherPieces)

/-- What a printer writes for a condition and the value chosen where it holds. -/
inductive WrittenBranch : Branch → List Piece → Prop where
  | mk
      {condition value : Expr}
      {pieces valuePieces : List Piece}
      (written : Written 0 condition pieces)
      (valueWritten : Written 0 value valuePieces) :
      WrittenBranch (.mk condition value)
        (pieces ++ .fixed .thenWord "then" (by decide) :: valuePieces)

/-- What a printer writes for the branches after the first one. -/
inductive WrittenBranches : List Branch → List Piece → Prop where
  | none : WrittenBranches [] []
  | some
      {next : Branch}
      {others : List Branch}
      {pieces otherPieces : List Piece}
      (written : WrittenBranch next pieces)
      (othersWritten : WrittenBranches others otherPieces) :
      WrittenBranches (next :: others)
        (.fixed .elseifWord "elseif" (by decide) :: (pieces ++ otherPieces))

end

/-! ## Texts -/

/-- A run of the white space that may stand between tokens. -/
def IsGap (gap : List Char) : Prop := ∀ c ∈ gap, isSpace c = true

/-- What follows a token: further tokens, each behind white space, and perhaps white space at the
end. -/
inductive Trail : List Piece → List Char → Prop where
  | done {gap : List Char} (isGap : IsGap gap) : Trail [] gap
  | more
      {gap text : List Char}
      {piece : Piece}
      {rest : List Piece}
      (isGap : IsGap gap)
      (nonempty : gap ≠ [])
      (trail : Trail rest text) :
      Trail (piece :: rest) (gap ++ (piece.lexeme ++ text))

/-- A text of some tokens in turn; white space may also stand in front. -/
inductive Spaced : List Piece → List Char → Prop where
  | mk
      {gap text : List Char}
      {piece : Piece}
      {rest : List Piece}
      (isGap : IsGap gap)
      (trail : Trail rest text) :
      Spaced (piece :: rest) (gap ++ (piece.lexeme ++ text))

/-- A text is a printed form of a tree. -/
def Prints (tree : Expr) (text : String) : Prop :=
  ∃ pieces, Written 0 tree pieces ∧ Spaced pieces text.toList

/-! ## Trees up to columns -/

mutual

/-- A tree without its columns. -/
@[grind =]
def Expr.plain : Expr → Expr
  | .name _ name => .name default name
  | .number _ value => .number default value
  | .string _ body => .string default body
  | .boolean _ value => .boolean default value
  | .nil _ => .nil default
  | .unary _ operator operand => .unary default operator operand.plain
  | .binary _ operator left right => .binary default operator left.plain right.plain
  | .field _ target name => .field default target.plain name
  | .index _ target key => .index default target.plain key.plain
  | .call _ callee arguments => .call default callee.plain (plainArguments arguments)
  | .method _ target name arguments =>
    .method default target.plain name (plainArguments arguments)
  | .table _ fields => .table default (plainFields fields)
  | .choice _ branches otherwise => .choice default (plainBranches branches) otherwise.plain

/-- Arguments without their columns. -/
@[grind =]
def plainArguments : List Expr → List Expr
  | [] => []
  | argument :: rest => argument.plain :: plainArguments rest

/-- Table fields without their columns. -/
@[grind =]
def plainFields : List TableField → List TableField
  | [] => []
  | .keyed key value :: rest => .keyed key.plain value.plain :: plainFields rest
  | .named name value :: rest => .named name value.plain :: plainFields rest
  | .positional value :: rest => .positional value.plain :: plainFields rest

/-- Branches without their columns. -/
@[grind =]
def plainBranches : List Branch → List Branch
  | [] => []
  | .mk condition value :: rest => .mk condition.plain value.plain :: plainBranches rest

end

end LuauNodes.Expression
