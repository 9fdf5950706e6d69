import LuauNodes.Text.Quoted

/-!
# Options on a command line

What a command knows: its options, each with one or more spellings, and the
arguments it must have.  A long option may be shortened as far as it stays
unique, and short options may be joined in one word.
-/

namespace LuauNodes.CommandLine

/-- What an option is for. -/
inductive Switch where
  | help
  | verbose
  | document
  | node
  | complete
  | json
  deriving DecidableEq

/-- An option of a command. -/
structure OptionForm where
  spellings : List String
  switch : Switch
  takesValue : Bool

/-- An argument that a command must have: one word, or a command with all that follows it. -/
inductive Required where
  | word (name : String)
  | command (name : String) (choices : List String)

/-- What a command knows. -/
structure CommandForm where
  program : String
  options : List OptionForm
  required : Option Required

/-- Why a command line is refused. -/
inductive UsageFault where
  | ambiguous (word : String) (spellings : List String)
  | expectedValue (option : String)
  | ignoredValue (option value : String)
  | invalidChoice (name value : String) (choices : List String)
  | missing (name : String)
  | unrecognized (words : List String)
  | completeWithoutNode

/-- The wording of a fault. -/
def UsageFault.message : UsageFault → String
  | ambiguous word spellings =>
    s!"ambiguous option: {word} could match " ++ String.intercalate ", " spellings
  | expectedValue option => s!"argument {option}: expected one argument"
  | ignoredValue option value =>
    s!"argument {option}: ignored explicit argument {Text.inQuotes value}"
  | invalidChoice name value choices =>
    s!"argument {name}: invalid choice: {Text.inQuotes value} " ++
      s!"(choose from {Text.allInQuotes choices})"
  | missing name => s!"the following arguments are required: {name}"
  | unrecognized words => "unrecognized arguments: " ++ String.intercalate " " words
  | completeWithoutNode => "--complete requires --node."

namespace OptionForm

/-- The spellings of an option in a message. -/
def title (option : OptionForm) : String := String.intercalate "/" option.spellings

end OptionForm

namespace CommandForm

/-- Every spelling with its option, in order. -/
def spellings (form : CommandForm) : List (String × OptionForm) :=
  form.options.flatMap fun option => option.spellings.map fun spelling => (spelling, option)

/-- The option with exactly the given spelling. -/
def option? (form : CommandForm) (spelling : String) : Option OptionForm :=
  (form.spellings.find? fun entry => entry.1 == spelling).map (·.2)

end CommandForm

/-- What is attached to the spelling of an option in one word. -/
inductive Attached where
  | nothing
  /-- A value behind an equals sign. -/
  | value (text : String)
  /-- Further characters directly behind a short option. -/
  | tail (text : String)

/-- What a word of a command line is. -/
inductive WordClass where
  /-- The two dashes behind which every word is an argument. -/
  | divider
  | argument
  | option (option : OptionForm) (spelling : String) (attached : Attached)
  | unknownOption

/-- The part of a text before the first equals sign and, if there is one, the part behind it. -/
def splitAtEquals (text : String) : String × Option String :=
  let characters := text.toList
  let before := characters.takeWhile (· != '=')
  match characters.drop before.length with
  | [] => (text, none)
  | _ :: after => (String.ofList before, some (String.ofList after))

/-- What is behind an equals sign, if there is one. -/
def Attached.ofValue (value : Option String) : Attached :=
  match value with
  | some text => .value text
  | none => .nothing

/-- A negative number, which is never taken for an option. -/
def isNegativeNumber (isDigit : Char → Bool) (word : List Char) : Bool :=
  match word with
  | '-' :: rest =>
    let whole := rest.takeWhile isDigit
    match rest.drop whole.length with
    | [] => !whole.isEmpty
    | '.' :: fraction => !fraction.isEmpty && fraction.all isDigit
    | _ => false
  | _ => false

namespace CommandForm

/-- The options that a word with two dashes may be short for. -/
def longMatches (form : CommandForm) (word : String) :
    List (OptionForm × String × Attached) :=
  let (start, value) := splitAtEquals word
  (form.spellings.filter fun entry => entry.1.startsWith start).map fun (spelling, option) =>
    (option, spelling, .ofValue value)

/-- The options that a word with one dash may stand for. -/
def shortMatches (form : CommandForm) (word : String) :
    List (OptionForm × String × Attached) :=
  let short := String.ofList (word.toList.take 2)
  form.spellings.filterMap fun (spelling, option) =>
    if spelling == short then
      some (option, spelling, .tail (String.ofList (word.toList.drop 2)))
    else if spelling.startsWith word then some (option, spelling, .nothing)
    else none

/-- The option with a spelling that stands before an equals sign in a word. -/
def valued? (form : CommandForm) (word : String) : Option (OptionForm × String × Attached) :=
  match splitAtEquals word with
  | (spelling, some value) =>
    (form.option? spelling).map fun option => (option, spelling, .value value)
  | _ => none

/-- The class of a word that starts with a dash and is no spelling of an option. -/
def classifyDashed (form : CommandForm) (isDigit : Char → Bool) (word : String) :
    Except UsageFault WordClass :=
  match form.valued? word with
  | some (option, spelling, attached) => .ok (.option option spelling attached)
  | none =>
    let found := if word.startsWith "--" then form.longMatches word else form.shortMatches word
    match found with
    | [(option, spelling, attached)] => .ok (.option option spelling attached)
    | [] =>
      .ok (if isNegativeNumber isDigit word.toList || word.toList.contains ' ' then .argument
        else .unknownOption)
    | _ => .error (.ambiguous word (found.map fun entry => entry.2.1))

/-- The class of a word that stands before any divider. -/
def classify (form : CommandForm) (isDigit : Char → Bool) (word : String) :
    Except UsageFault WordClass :=
  match word.toList with
  | ['-'] => .ok .argument
  | '-' :: _ =>
    match form.option? word with
    | some option => .ok (.option option word .nothing)
    | none => form.classifyDashed isDigit word
  | _ => .ok .argument

/-- The words of a command line with their classes. -/
def classifyAll (form : CommandForm) (isDigit : Char → Bool) :
    List String → Except UsageFault (List (String × WordClass))
  | [] => .ok []
  | "--" :: rest => .ok (("--", .divider) :: rest.map fun word => (word, .argument))
  | word :: rest =>
    match form.classify isDigit word, form.classifyAll isDigit rest with
    | .ok found, .ok others => .ok ((word, found) :: others)
    | .error fault, _ => .error fault
    | _, .error fault => .error fault

end CommandForm

end LuauNodes.CommandLine
