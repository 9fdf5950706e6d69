import LuauNodes.Json.Basic
import LuauNodes.Number.Reading
import LuauNodes.Record.Checked

/-!
# Reading typed values

Readers take a JSON value to a value of a type.  They are lenient where a form
designer would be: numbers and truth values may be written as text, and whole
numbers as floating point ones.  Records read their fields by name and ignore
the others; a field may have a second spelling.
-/

namespace LuauNodes.Record

open Checked

/-- A reader of values of a type. -/
abbrev Reader (α : Type) := Json → Checked α

/-! ## Simple values -/

/-- A text. -/
def text : Reader String
  | .text value => ok value
  | _ => fail .text

/-- A value or nothing. -/
def nullable {α : Type} (read : Reader α) : Reader (Option α)
  | .null => ok none
  | value => (read value).map some

/-- The texts that mean no, case aside. -/
def noTexts : List String := ["0", "off", "f", "false", "n", "no"]

/-- The texts that mean yes, case aside. -/
def yesTexts : List String := ["1", "on", "t", "true", "y", "yes"]

/-- Whole numbers of 64 bits. -/
def isMachineInteger (value : Int) : Bool :=
  Int64.minValue.toInt ≤ value && value ≤ Int64.maxValue.toInt

/-- A truth value that is given as a whole number. -/
def booleanOfInt (value : Int) : Checked Bool :=
  if value = 0 then ok false
  else if value = 1 then ok true
  else if isMachineInteger value then fail .booleanText
  else fail .boolean

/-- A truth value. -/
def boolean : Reader Bool
  | .bool value => ok value
  | .int value => booleanOfInt value
  | .float value =>
    match value.toInt? with
    | some whole => booleanOfInt whole
    | none => fail .boolean
  | .text value =>
    let word := String.ofList (value.toList.map Char.toLower)
    if noTexts.contains word then ok false
    else if yesTexts.contains word then ok true
    else fail .booleanText
  | _ => fail .boolean

/-- A whole number. -/
def integer : Reader Int
  | .int value => ok value
  | .bool value => ok (if value then 1 else 0)
  | .float value =>
    if !value.isFinite then fail .finiteNumber
    else
      match value.toInt? with
      | some whole => ok whole
      | none => fail .wholeNumber
  | .text value =>
    match Number.integer? value with
    | some whole => ok whole
    | none => fail .integerText
  | _ => fail .integer

/-- A whole number between two bounds. -/
def integerBetween (low high : Int) : Reader Int := fun value =>
  (integer value).andThen fun whole =>
    if whole < low then fail (.atLeast low)
    else if high < whole then fail (.atMost high)
    else ok whole

/-- A floating point number. -/
def real : Reader Binary64
  | .float value => ok value
  | .int value =>
    match Binary64.ofInt? value with
    | some rounded => ok rounded
    | none => fail .number
  | .bool value => ok ((Binary64.ofInt? (if value then 1 else 0)).getD default)
  | .text value =>
    match Number.real? value with
    | some number => ok number
    | none => fail .numberText
  | _ => fail .number

/-- One of some named options. -/
def oneOf {α : Type} (options : List α) (tag : α → String) : Reader α := fun value =>
  let found :=
    match value with
    | .text written => options.find? fun option => tag option == written
    | _ => none
  match found with
  | some option => ok option
  | none => fail (.oneOf (options.map tag))

/-- A list of values. -/
def list {α : Type} (read : Reader α) : Reader (List α)
  | .list items => each read 0 items
  | _ => fail .list

/-- A set of texts. -/
def textSet : Reader (List String)
  | .list items => each text 0 items
  | _ => fail .set

/-! ## Records -/

/-- The fields of a record as they are given. -/
abbrev Fields := List (String × Json)

/-- A field's name and, where it has one, the spelling that takes precedence. -/
structure FieldName where
  preferred : String
  plain : String

/-- A field with one spelling. -/
def FieldName.same (name : String) : FieldName := ⟨name, name⟩

/-- The part of a name after its first character, whose underscores make the next letter large. -/
def camelTail : List Char → List Char
  | '_' :: c :: rest => c.toUpper :: camelTail rest
  | c :: rest => c :: camelTail rest
  | [] => []

/-- A field whose preferred spelling joins the words of its name by large letters. -/
def FieldName.camel (name : String) : FieldName := ⟨String.ofList (camelTail name.toList), name⟩

/-- The value of a field and the spelling it was found under. -/
def FieldName.find? (name : FieldName) (fields : Fields) : Option (String × Json) :=
  match Json.entry? name.preferred fields with
  | some value => some (name.preferred, value)
  | none => ( Json.entry? name.plain fields).map fun value => (name.plain, value)

/-- A field that must be given. -/
def required {α : Type} (name : FieldName) (read : Reader α) (fields : Fields) : Checked α :=
  match name.find? fields with
  | some (spelling, value) => within spelling (read value)
  | none => within name.preferred (fail .missing)

/-- A field that has a value of its own where it is not given. -/
def optional {α : Type} (name : FieldName) (default : α) (read : Reader α) (fields : Fields) :
    Checked α :=
  match name.find? fields with
  | some (spelling, value) => within spelling (read value)
  | none => ok default

theorem optional_same_of_absent
    {α : Type}
    {name : String}
    {fields : Fields}
    (absent : Json.entry? name fields = none)
    (default : α)
    (read : Reader α) :
    optional (.same name) default read fields = ok default := by
  simp [optional, FieldName.find?, FieldName.same, absent]

theorem optional_same_of_present
    {α : Type}
    {name : String}
    {fields : Fields}
    {value : Json}
    (present : Json.entry? name fields = some value)
    (default : α)
    (read : Reader α) :
    optional (.same name) default read fields = within name (read value) := by
  simp [optional, FieldName.find?, FieldName.same, present]

theorem required_same_of_present
    {α : Type}
    {name : String}
    {fields : Fields}
    {value : Json}
    (present : Json.entry? name fields = some value)
    (read : Reader α) :
    required (.same name) read fields = within name (read value) := by
  simp [required, FieldName.find?, FieldName.same, present]

/-- A record with a name for faults. -/
def record {α : Type} (name : String) (read : Fields → Checked α) : Reader α
  | .object fields => read fields
  | _ => fail (.record name)

/-- Any fields at all. -/
def dictionary : Reader Fields
  | .object fields => ok fields
  | _ => fail .dictionary

end LuauNodes.Record
