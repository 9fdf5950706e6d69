/-!
# Checked values

The result of reading a typed value out of untyped data: the value, or every
mismatch that was found, each with the place where it lies.  Reading several
parts collects the mismatches of all of them in their order.
-/

namespace LuauNodes.Record

/-- How a value fails to be what was asked for. -/
inductive Mismatch where
  | missing
  | text
  | boolean
  | booleanText
  | integer
  | integerText
  | wholeNumber
  | finiteNumber
  | atLeast (bound : Int)
  | atMost (bound : Int)
  | number
  | numberText
  | list
  | set
  | dictionary
  | record (name : String)
  | oneOf (options : List String)
  deriving DecidableEq

/-- Options in quotes, the last one set off by a word. -/
def quotedOptions (options : List String) : String :=
  let quoted := options.map fun option => s!"'{option}'"
  match quoted.reverse with
  | [] => ""
  | [only] => only
  | last :: others => String.intercalate ", " others.reverse ++ " or " ++ last

/-- The wording of a mismatch. -/
def Mismatch.message : Mismatch → String
  | missing => "Field required"
  | text => "Input should be a valid string"
  | boolean => "Input should be a valid boolean"
  | booleanText => "Input should be a valid boolean, unable to interpret input"
  | integer => "Input should be a valid integer"
  | integerText => "Input should be a valid integer, unable to parse string as an integer"
  | wholeNumber => "Input should be a valid integer, got a number with a fractional part"
  | finiteNumber => "Input should be a finite number"
  | atLeast bound => s!"Input should be greater than or equal to {bound}"
  | atMost bound => s!"Input should be less than or equal to {bound}"
  | number => "Input should be a valid number"
  | numberText => "Input should be a valid number, unable to parse string as a number"
  | list => "Input should be a valid list"
  | set => "Input should be a valid set"
  | dictionary => "Input should be a valid dictionary"
  | record name => s!"Input should be a valid dictionary or instance of {name}"
  | oneOf options => s!"Input should be {quotedOptions options}"

/-- A mismatch and where it lies: field names and list positions from the outside in. -/
structure Fault where
  path : List String
  mismatch : Mismatch
  deriving DecidableEq

/-- The wording of a fault; the whole value is called the configuration. -/
def Fault.message (fault : Fault) : String :=
  let place := String.intercalate "." fault.path
  (if place.isEmpty then "config" else place) ++ ": " ++ fault.mismatch.message

/-- The wording of several faults. -/
def faultsMessage (faults : List Fault) : String :=
  String.intercalate "; " (faults.map Fault.message)

/-- A value, or the faults that were found instead. -/
inductive Checked (α : Type) where
  | ok (value : α)
  | bad (faults : List Fault)

instance {α : Type} : Inhabited (Checked α) := ⟨.bad []⟩

namespace Checked

variable {α β : Type}

/-- A single fault at the whole value. -/
def fail (mismatch : Mismatch) : Checked α := bad [⟨[], mismatch⟩]

/-- Applies a function to the value. -/
def map (f : α → β) : Checked α → Checked β
  | ok value => ok (f value)
  | bad faults => bad faults

/-- Applies a checked function to a checked value, with the faults of both. -/
def apply (f : Checked (α → β)) (x : Checked α) : Checked β :=
  match f, x with
  | ok f, ok value => ok (f value)
  | ok _, bad faults => bad faults
  | bad faults, ok _ => bad faults
  | bad faults, bad others => bad (faults ++ others)

instance : Applicative Checked where
  pure := ok
  map := map
  seq f x := apply f (x ())

/-- Continues with a value that was found. -/
def andThen (x : Checked α) (f : α → Checked β) : Checked β :=
  match x with
  | ok value => f value
  | bad faults => bad faults

/-- Places the faults under a part of a larger value. -/
def within (part : String) : Checked α → Checked α
  | ok value => ok value
  | bad faults => bad (faults.map fun fault => { fault with path := part :: fault.path })

/-- The value, if there is one. -/
def toOption : Checked α → Option α
  | ok value => some value
  | bad _ => none

/-- The faults; none where there is a value. -/
def faults : Checked α → List Fault
  | ok _ => []
  | bad faults => faults

/-- Checks every member of a list, each under its position counted from `start`. -/
def each (check : α → Checked β) (start : Nat) : List α → Checked (List β)
  | [] => ok []
  | first :: rest =>
    apply (map List.cons (within (toString start) (check first))) (each check (start + 1) rest)

/-- Parts that are all found make a whole that is found. -/
theorem apply_eq_ok_iff
    (f : Checked (α → β))
    (x : Checked α)
    (result : β) :
    apply f x = ok result ↔
      ∃ function value, f = ok function ∧ x = ok value ∧ function value = result := by
  cases f <;> cases x <;> simp [apply]

theorem seq_eq_ok_iff
    (f : Checked (α → β))
    (x : Checked α)
    (result : β) :
    f <*> x = ok result ↔
      ∃ function value, f = ok function ∧ x = ok value ∧ function value = result :=
  apply_eq_ok_iff f x result

theorem map_eq_ok_iff
    (f : α → β)
    (x : Checked α)
    (result : β) :
    f <$> x = ok result ↔ ∃ value, x = ok value ∧ f value = result := by
  show map f x = ok result ↔ _
  cases x <;> simp [map]

theorem within_eq_ok_iff
    (part : String)
    (x : Checked α)
    (result : α) :
    within part x = ok result ↔ x = ok result := by
  cases x <;> simp [within]

/-- A list is found with all of its members. -/
theorem length_of_each
    {check : α → Checked β}
    {start : Nat}
    {items : List α}
    {results : List β}
    (found : each check start items = ok results) :
    results.length = items.length := by
  induction items generalizing start results with
  | nil =>
      cases found
      rfl
  | cons first rest ih =>
      obtain ⟨prepend, others, consed, remaining, rfl⟩ := (apply_eq_ok_iff _ _ _).mp found
      obtain ⟨result, -, rfl⟩ := (map_eq_ok_iff _ _ _).mp consed
      exact congrArg (· + 1) (ih remaining)

end Checked

end LuauNodes.Record
