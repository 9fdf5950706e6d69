import LuauNodes.CommandLine.Option
import LuauNodes.Text.Digit

/-!
# Reading a command line

A command line is read word by word.  Options take effect where they stand, the
required argument is the first word that is no option, and words that nothing
claims are left over.
-/

namespace LuauNodes.CommandLine

/-- What was read of a command line. -/
structure Parsed where
  /-- The options in their order, with their values. -/
  settings : List (Switch × String)
  /-- The words of the required argument. -/
  found : Option (List String)
  /-- The words that nothing claims. -/
  extras : List String

namespace Parsed

/-- Nothing was read yet. -/
def nothing : Parsed := ⟨[], none, []⟩

/-- With one more option. -/
def set (parsed : Parsed) (switch : Switch) (value : String) : Parsed :=
  { parsed with settings := parsed.settings ++ [(switch, value)] }

/-- With more words that nothing claims. -/
def leave (parsed : Parsed) (words : List String) : Parsed :=
  { parsed with extras := parsed.extras ++ words }

/-- The option was given. -/
def has (parsed : Parsed) (switch : Switch) : Bool :=
  parsed.settings.any fun setting => setting.1 == switch

/-- The last value of an option. -/
def value? (parsed : Parsed) (switch : Switch) : Option String :=
  (parsed.settings.reverse.find? fun setting => setting.1 == switch).map (·.2)

end Parsed

/-- A word with its class. -/
abbrev ClassedWord := String × WordClass

/-- The word is an option, known or not. -/
def isOption (word : ClassedWord) : Bool :=
  match word.2 with
  | .option _ _ _ => true
  | .unknownOption => true
  | _ => false

/-- The word is a divider. -/
def isDivider (word : ClassedWord) : Bool :=
  match word.2 with
  | .divider => true
  | _ => false

/-! ## Options -/

/-- Reads further short options from the tail of a word. -/
def readTail (form : CommandForm) (option : OptionForm) :
    List Char → Parsed → Except UsageFault Parsed
  | [], parsed => .ok (parsed.set option.switch "")
  | '-' :: rest, _ => .error (.ignoredValue option.title (String.ofList ('-' :: rest)))
  | c :: rest, parsed =>
    let parsed := parsed.set option.switch ""
    match form.option? (String.ofList ['-', c]), rest with
    | none, _ => .ok (parsed.leave [String.ofList ('-' :: c :: rest)])
    | some next, '=' :: value => .error (.ignoredValue next.title (String.ofList value))
    | some next, _ => readTail form next rest parsed

/-- Reads an option, with its value from its own word or from the next one. -/
def readOption
    (form : CommandForm)
    (option : OptionForm)
    (attached : Attached)
    (rest : List ClassedWord)
    (parsed : Parsed) :
    Except UsageFault (Parsed × List ClassedWord) :=
  match option.takesValue, attached with
  | true, .nothing =>
    match rest with
    | (word, .argument) :: after => .ok (parsed.set option.switch word, after)
    | _ => .error (.expectedValue option.title)
  | true, .value text => .ok (parsed.set option.switch text, rest)
  | true, .tail text => .ok (parsed.set option.switch text, rest)
  | false, .nothing => .ok (parsed.set option.switch "", rest)
  | false, .value text => .error (.ignoredValue option.title text)
  | false, .tail text => (readTail form option text.toList parsed).map fun read => (read, rest)

/-! ## Arguments -/

/-- The words that a required argument claims, and the rest. -/
def claim (required : Required) (words : List ClassedWord) :
    Option (List String × List ClassedWord) :=
  let after := words.dropWhile isDivider
  let dividers := (words.takeWhile isDivider).map (·.1)
  match required, after with
  | _, [] => none
  | .command _ _, first :: rest =>
    if isOption first then none else some (dividers ++ (first :: rest).map (·.1), [])
  | .word _, first :: rest =>
    if isOption first then none else some ([first.1], rest.dropWhile isDivider)

/-- Reads the words of a command line that are left.  A request for help ends the reading. -/
def readWords (form : CommandForm) :
    Nat → List ClassedWord → Parsed → Except UsageFault Parsed
  | 0, _, parsed => .ok parsed
  | _, [], parsed => .ok parsed
  | fuel + 1, first :: rest, parsed =>
    match first with
    | (word, .unknownOption) => readWords form fuel rest (parsed.leave [word])
    | (_, .option option _ attached) =>
      match readOption form option attached rest parsed with
      | .error fault => .error fault
      | .ok (read, after) =>
        if read.has .help then .ok read else readWords form fuel after read
    | (word, _) =>
      match parsed.found, form.required.bind fun required => claim required (first :: rest) with
      | none, some (words, after) =>
        readWords form fuel after { parsed with found := some words }
      | _, _ => readWords form fuel rest (parsed.leave [word])

/-- Reads the words of a command line. -/
def read (form : CommandForm) (words : List String) : Except UsageFault Parsed :=
  match form.classifyAll Text.isDigit words with
  | .error fault => .error fault
  | .ok classed => readWords form (classed.length + 1) classed .nothing

end LuauNodes.CommandLine
