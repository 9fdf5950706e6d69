import LuauNodes.Proofs.Expression.Printing

/-!
# The grammar of expressions

The sentences of the expression language, stated apart from any way to read
them.  A pattern describes the lexemes of a terminal, and may look at what
follows the lexeme; a form describes the words of terminals that a rule derives.
A text is a sentence when some derived word is spelled by it, with or without
white space in front of each lexeme and behind the last one.  Nothing is said of
which lexeme is taken where several would fit, so a text may be a sentence in
more than one way.
-/

namespace LuauNodes.Expression

open LuauNodes.Text

/-! ## Lexemes -/

/-- A regular expression over characters that may look ahead. -/
inductive Pattern where
  | nothing
  | one (member : Char → Bool)
  | exactly (characters : List Char)
  | ahead (fits : List Char → Bool)
  | followedBy (first second : Pattern)
  | either (first second : Pattern)
  | many (pattern : Pattern)

/-- The pattern fits a lexeme in front of the rest of a text. -/
inductive Pattern.Fits : Pattern → List Char → List Char → Prop where
  | nothing
      {rest : List Char} :
      Fits .nothing [] rest
  | one
      {member : Char → Bool}
      {c : Char}
      {rest : List Char}
      (fits : member c = true) :
      Fits (.one member) [c] rest
  | exactly
      {characters rest : List Char} :
      Fits (.exactly characters) characters rest
  | ahead
      {fits : List Char → Bool}
      {rest : List Char}
      (follows : fits rest = true) :
      Fits (.ahead fits) [] rest
  | followedBy
      {first second : Pattern}
      {front back rest : List Char}
      (firstFits : Fits first front (back ++ rest))
      (secondFits : Fits second back rest) :
      Fits (.followedBy first second) (front ++ back) rest
  | left
      {first second : Pattern}
      {lexeme rest : List Char}
      (fits : Fits first lexeme rest) :
      Fits (.either first second) lexeme rest
  | right
      {first second : Pattern}
      {lexeme rest : List Char}
      (fits : Fits second lexeme rest) :
      Fits (.either first second) lexeme rest
  | stop
      {pattern : Pattern}
      {rest : List Char} :
      Fits (.many pattern) [] rest
  | again
      {pattern : Pattern}
      {front back rest : List Char}
      (fits : Fits pattern front (back ++ rest))
      (others : Fits (.many pattern) back rest) :
      Fits (.many pattern) (front ++ back) rest

namespace Pattern

/-- One pattern after the other. -/
def inTurn : List Pattern → Pattern
  | [] => nothing
  | [last] => last
  | pattern :: others => followedBy pattern (inTurn others)

/-- A pattern or nothing. -/
def perhaps (pattern : Pattern) : Pattern := either pattern nothing

/-- At least one time. -/
def repeated (pattern : Pattern) : Pattern := followedBy pattern (many pattern)

/-- One of two characters. -/
def oneOf (first second : Char) : Pattern := one fun c => c == first || c == second

/-- One of some fixed texts. -/
def among : List String → Pattern
  | [] => one fun _ => false
  | [last] => exactly last.toList
  | text :: others => either (exactly text.toList) (among others)

/-- The end of a word whose last character is a word character. -/
def wordEnd : Pattern := ahead fun rest => rest.head?.all fun next => !isWordChar next

/-- A keyword. -/
def keyword (word : String) : Pattern := followedBy (exactly word.toList) wordEnd

/-- No reserved word, and then the characters of an identifier. -/
def identifier : Pattern :=
  inTurn
    [ahead fun rest => !reservedWords.any fun word => beginsWithWord word rest,
     one isNameStart,
     many (one isNameChar)]

/-- A base mark and at least one digit or separator. -/
def based (lower upper : Char) (member : Char → Bool) : Pattern :=
  inTurn [exactly ['0'], oneOf lower upper, repeated (one fun c => c == '_' || member c)]

/-- An exponent with its sign. -/
def exponent : Pattern :=
  inTurn [oneOf 'e' 'E', perhaps (oneOf '+' '-'), repeated (one isDigit)]

/-- A decimal: a whole part that a fraction may follow, or a fraction alone. -/
def decimal : Pattern :=
  let digits := followedBy (one isDigit) (many (one isDigitOrSeparator))
  let fraction := followedBy (exactly ['.']) (many (one isDigitOrSeparator))
  followedBy
    (either
      (followedBy digits (perhaps fraction))
      (followedBy (exactly ['.']) digits))
    (perhaps exponent)

/-- A number in base sixteen, two or ten. -/
def numeral : Pattern :=
  either
    (based 'x' 'X' fun c => (hexValue? c).isSome)
    (either (based 'b' 'B' fun c => c == '0' || c == '1') decimal)

/-- What stands between two quotes: escaped characters and characters that end nothing. -/
def quotedBody (quote : Char) : Pattern :=
  many
    (either
      (followedBy (exactly ['\\']) (one fun c => c != '\n'))
      (one fun c => c != quote && c != '\\' && (quote == backQuote || c != '\n')))

/-- A literal in quotes of one kind. -/
def quoted (quote : Char) : Pattern :=
  inTurn [exactly [quote], quotedBody quote, exactly [quote]]

end Pattern

/-- The lexemes of a terminal. -/
def Terminal.pattern : Terminal → Pattern
  | .name => .identifier
  | .number => .numeral
  | .string => .either (.quoted '"') (.either (.quoted '\'') (.quoted backQuote))
  | .openParen => .among ["("]
  | .closeParen => .among [")"]
  | .openBracket => .among ["["]
  | .closeBracket => .among ["]"]
  | .openBrace => .among ["\x7b"]
  | .closeBrace => .among ["\x7d"]
  | .comma => .among [","]
  | .semicolon => .among [";"]
  | .dot => .among ["."]
  | .colon => .among [":"]
  | .equals => .among ["="]
  | .comparison => .among ["==", "~=", "<=", ">=", "<", ">"]
  | .concat => .among [".."]
  | .plus => .among ["+"]
  | .minus => .among ["-"]
  | .product => .among ["//", "*", "/", "%"]
  | .power => .among ["^"]
  | .hash => .among ["#"]
  | .andWord => .keyword "and"
  | .orWord => .keyword "or"
  | .notWord => .keyword "not"
  | .nilWord => .keyword "nil"
  | .trueWord => .keyword "true"
  | .falseWord => .keyword "false"
  | .ifWord => .keyword "if"
  | .thenWord => .keyword "then"
  | .elseWord => .keyword "else"
  | .elseifWord => .keyword "elseif"

/-! ## Words -/

/-- The kinds of phrases. -/
inductive Phrase where
  | expression
  | choice
  | disjunction
  | conjunction
  | comparison
  | concatenation
  | sum
  | product
  | unary
  | power
  | access
  | arguments
  | primary
  | table
  | field
  deriving DecidableEq

/-- The right side of a rule. -/
inductive Form where
  | nothing
  | token (terminal : Terminal)
  | phrase (phrase : Phrase)
  | followedBy (first second : Form)
  | either (first second : Form)
  | many (form : Form)

namespace Form

/-- One form after the other. -/
def inTurn : List Form → Form
  | [] => nothing
  | [last] => last
  | form :: others => followedBy form (inTurn others)

/-- One of several forms. -/
def among (first : Form) : List Form → Form
  | [] => first
  | second :: others => either first (among second others)

/-- A form or nothing. -/
def perhaps (form : Form) : Form := either form nothing

/-- At least one phrase, with a form between each two. -/
def separated (item : Phrase) (separator : Form) : Form :=
  followedBy (phrase item) (many (followedBy separator (phrase item)))

/-- The arguments of a call. -/
def parenthesised : Form :=
  inTurn [token .openParen, perhaps (phrase .arguments), token .closeParen]

/-- What separates the fields of a table. -/
def fieldSeparator : Form := either (token .comma) (token .semicolon)

end Form

open Form in
/-- The rule of a phrase. -/
def Phrase.rule : Phrase → Form
  | .expression => either (phrase .choice) (phrase .disjunction)
  | .choice =>
    inTurn
      [token .ifWord, phrase .expression, token .thenWord, phrase .expression,
       many
        (inTurn
          [token .elseifWord, phrase .expression, token .thenWord, phrase .expression]),
       token .elseWord, phrase .expression]
  | .disjunction => separated .conjunction (token .orWord)
  | .conjunction => separated .comparison (token .andWord)
  | .comparison => separated .concatenation (token .comparison)
  | .concatenation => separated .sum (token .concat)
  | .sum => separated .product (either (token .plus) (token .minus))
  | .product => separated .unary (token .product)
  | .unary =>
    among
      (inTurn [token .notWord, phrase .unary])
      [inTurn [token .minus, phrase .unary],
       inTurn [token .hash, phrase .unary],
       phrase .power]
  | .power => followedBy (phrase .access) (perhaps (inTurn [token .power, phrase .unary]))
  | .access =>
    among
      (phrase .primary)
      [inTurn [phrase .access, token .dot, token .name],
       inTurn [phrase .access, token .openBracket, phrase .expression, token .closeBracket],
       followedBy (phrase .access) parenthesised,
       inTurn [phrase .access, token .colon, token .name, parenthesised]]
  | .arguments => separated .expression (token .comma)
  | .primary =>
    among
      (token .name)
      [token .number, token .string, token .nilWord, token .trueWord, token .falseWord,
       inTurn [token .openParen, phrase .expression, token .closeParen],
       phrase .table]
  | .table =>
    inTurn
      [token .openBrace,
       perhaps (followedBy (separated .field fieldSeparator) (perhaps fieldSeparator)),
       token .closeBrace]
  | .field =>
    among
      (inTurn
        [token .openBracket, phrase .expression, token .closeBracket, token .equals,
         phrase .expression])
      [inTurn [token .name, token .equals, phrase .expression],
       phrase .expression]

/-- The form derives a word of terminals. -/
inductive Form.Derives : Form → List Terminal → Prop where
  | nothing :
      Derives .nothing []
  | token
      {terminal : Terminal} :
      Derives (.token terminal) [terminal]
  | phrase
      {phrase : Phrase}
      {word : List Terminal}
      (derives : Derives phrase.rule word) :
      Derives (.phrase phrase) word
  | followedBy
      {first second : Form}
      {front back : List Terminal}
      (firstDerives : Derives first front)
      (secondDerives : Derives second back) :
      Derives (.followedBy first second) (front ++ back)
  | left
      {first second : Form}
      {word : List Terminal}
      (derives : Derives first word) :
      Derives (.either first second) word
  | right
      {first second : Form}
      {word : List Terminal}
      (derives : Derives second word) :
      Derives (.either first second) word
  | stop
      {form : Form} :
      Derives (.many form) []
  | again
      {form : Form}
      {front back : List Terminal}
      (derives : Derives form front)
      (others : Derives (.many form) back) :
      Derives (.many form) (front ++ back)

/-! ## Texts -/

/-- The text consists of lexemes of the terminals, with white space between them or none. -/
inductive Spells : List Terminal → List Char → Prop where
  | done
      {gap : List Char}
      (isGap : IsGap gap) :
      Spells [] gap
  | more
      {terminal : Terminal}
      {word : List Terminal}
      {gap lexeme rest : List Char}
      (isGap : IsGap gap)
      (fits : terminal.pattern.Fits lexeme rest)
      (spells : Spells word rest) :
      Spells (terminal :: word) (gap ++ (lexeme ++ rest))

/-- The grammar accepts the text. -/
def IsSentence (text : List Char) : Prop :=
  ∃ word, (Form.phrase .expression).Derives word ∧ Spells word text

end LuauNodes.Expression
