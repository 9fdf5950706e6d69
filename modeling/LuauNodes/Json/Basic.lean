import LuauNodes.Number.Binary64

/-!
# JSON values

Decoded JSON, with whole numbers kept apart from floating point ones.  The
entries of an object stand in the order in which their names first appeared.
-/

namespace LuauNodes

/-- A JSON value. -/
inductive Json where
  | null
  | bool (value : Bool)
  | int (value : Int)
  | float (value : Binary64)
  | text (value : String)
  | list (items : List Json)
  | object (entries : List (String × Json))
  deriving Inhabited

namespace Json

/-- A value counts as present unless it is null, false, zero or empty. -/
def isTruthy : Json → Bool
  | null => false
  | bool value => value
  | int value => value != 0
  | float value => !value.isZero
  | text value => !value.isEmpty
  | list items => !items.isEmpty
  | object entries => !entries.isEmpty

/-- The value of a name in a list of entries. -/
def entry? (name : String) : List (String × Json) → Option Json
  | [] => none
  | (key, value) :: rest => if key == name then some value else entry? name rest

theorem entry?_eq_none_iff (name : String) (entries : List (String × Json)) :
    entry? name entries = none ↔ ∀ entry ∈ entries, entry.1 ≠ name := by
  induction entries with
  | nil => simp [ entry?]
  | cons entry rest ih =>
      by_cases same : entry.1 = name <;> simp [ entry?, same, ih]

/-- The value of a name in an object. -/
def field? (value : Json) (name : String) : Option Json :=
  match value with
  | object entries => entry? name entries
  | _ => none

/-- Writes an entry at the place of its name, or at the end. -/
def putEntry (name : String) (value : Json) : List (String × Json) → List (String × Json)
  | [] => [(name, value)]
  | (key, old) :: rest =>
    if key == name then (key, value) :: rest else (key, old) :: putEntry name value rest

theorem entry?_putEntry
    (name other : String)
    (value : Json)
    (entries : List (String × Json)) :
    entry? other (putEntry name value entries) =
      if name = other then some value else entry? other entries := by
  induction entries with
  | nil => simp [putEntry, entry?]
  | cons entry rest ih =>
      obtain ⟨key, old⟩ := entry
      by_cases same : key = name
      · subst same
        by_cases wanted : key = other <;> simp [putEntry, entry?, wanted]
      · by_cases wanted : key = other
        · have apart : name ≠ other := fun taken => same (wanted.trans taken.symm)
          simp [putEntry, entry?, wanted, apart, apart.symm]
        · simp [putEntry, entry?, same, wanted, ih]

/-- A text or null. -/
def ofText? : Option String → Json
  | some value => text value
  | none => null

/-- A list of texts. -/
def ofTexts (values : List String) : Json := list (values.map text)

end Json

end LuauNodes
