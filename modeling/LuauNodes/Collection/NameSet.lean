/-!
# Sets of names

A set of texts in its one canonical form: a list in increasing order without
repetition.  Two sets with the same members are therefore equal.
-/

namespace LuauNodes

/-- Puts a name into an increasing list, once. -/
def insertName (name : String) : List String → List String
  | [] => [name]
  | first :: rest =>
    if name < first then name :: first :: rest
    else if name = first then first :: rest
    else first :: insertName name rest

/-- A set of names in increasing order. -/
structure NameSet where
  names : List String
  deriving DecidableEq

namespace NameSet

/-- The set without members. -/
def empty : NameSet := ⟨[]⟩

instance : EmptyCollection NameSet := ⟨empty⟩

instance : Inhabited NameSet := ⟨empty⟩

instance : Membership String NameSet := ⟨fun set name => name ∈ set.names⟩

instance (name : String) (set : NameSet) : Decidable (name ∈ set) :=
  inferInstanceAs (Decidable (name ∈ set.names))

/-- The members in increasing order. -/
def toList (set : NameSet) : List String := set.names

/-- Adds a name. -/
def insert (set : NameSet) (name : String) : NameSet := ⟨insertName name set.names⟩

/-- Removes a name. -/
def erase (set : NameSet) (name : String) : NameSet := ⟨set.names.filter (· ≠ name)⟩

/-- The set of the names in a list. -/
def ofList (names : List String) : NameSet := names.foldl insert empty

/-- Everything in either set. -/
def union (left right : NameSet) : NameSet := right.names.foldl insert left

theorem mem_insertName
    (name other : String)
    (names : List String) :
    other ∈ insertName name names ↔ other = name ∨ other ∈ names := by
  induction names with
  | nil => simp [insertName]
  | cons first rest ih =>
      unfold insertName
      split
      · simp
      · split
        · rename_i same
          subst same
          simp
        · simp only [List.mem_cons, ih]
          constructor
          · rintro (here | there | later)
            · exact Or.inr (Or.inl here)
            · exact Or.inl there
            · exact Or.inr (Or.inr later)
          · rintro (here | there | later)
            · exact Or.inr (Or.inl here)
            · exact Or.inl there
            · exact Or.inr (Or.inr later)

@[simp]
theorem mem_insert
    (set : NameSet)
    (name other : String) :
    other ∈ set.insert name ↔ other = name ∨ other ∈ set :=
  mem_insertName name other set.names

@[simp]
theorem mem_erase
    (set : NameSet)
    (name other : String) :
    other ∈ set.erase name ↔ other ∈ set ∧ other ≠ name := by
  show other ∈ set.names.filter (· ≠ name) ↔ other ∈ set.names ∧ other ≠ name
  simp

@[simp]
theorem not_mem_empty (name : String) : ¬ name ∈ (empty : NameSet) := by
  show ¬ name ∈ ([] : List String)
  simp

theorem mem_foldl_insert
    (names : List String)
    (set : NameSet)
    (name : String) :
    name ∈ names.foldl insert set ↔ name ∈ set ∨ name ∈ names := by
  induction names generalizing set with
  | nil => simp
  | cons first rest ih =>
      rw [List.foldl_cons, ih, mem_insert, List.mem_cons]
      constructor
      · rintro ((here | old) | later)
        · exact Or.inr (Or.inl here)
        · exact Or.inl old
        · exact Or.inr (Or.inr later)
      · rintro (old | here | later)
        · exact Or.inl (Or.inr old)
        · exact Or.inl (Or.inl here)
        · exact Or.inr later

@[simp]
theorem mem_ofList
    (names : List String)
    (name : String) :
    name ∈ ofList names ↔ name ∈ names := by
  rw [ofList, mem_foldl_insert]
  simp

/-! ## Order -/

/-- The names of a set are in increasing order, so that none occurs twice. -/
def Increasing (set : NameSet) : Prop := set.names.Pairwise (· < ·)

theorem increasing_empty : (empty : NameSet).Increasing := List.Pairwise.nil

theorem pairwise_insertName
    (name : String)
    (names : List String)
    (increasing : names.Pairwise (· < ·)) :
    (insertName name names).Pairwise (· < ·) := by
  induction names with
  | nil => simp [insertName]
  | cons first rest ih =>
      rw [List.pairwise_cons] at increasing
      unfold insertName
      split
      · rename_i below
        refine List.pairwise_cons.mpr ⟨?_, List.pairwise_cons.mpr increasing⟩
        intro other member
        rcases List.mem_cons.mp member with here | later
        · exact here ▸ below
        · exact String.lt_trans below (increasing.1 other later)
      · split
        · exact List.pairwise_cons.mpr increasing
        · rename_i notBelow apart
          have above : first < name := by
            rcases Decidable.em (first < name) with above | notAbove
            · exact above
            · exact absurd
                (String.le_antisymm (String.not_lt.mp notAbove) (String.not_lt.mp notBelow)) apart
          refine List.pairwise_cons.mpr ⟨?_, ih increasing.2⟩
          intro other member
          rcases (mem_insertName name other rest).mp member with here | old
          · exact here ▸ above
          · exact increasing.1 other old

theorem Increasing.insert
    {set : NameSet}
    (increasing : set.Increasing)
    (name : String) :
    (set.insert name).Increasing :=
  pairwise_insertName name set.names increasing

theorem Increasing.erase
    {set : NameSet}
    (increasing : set.Increasing)
    (name : String) :
    (set.erase name).Increasing :=
  List.Pairwise.filter _ increasing

theorem increasing_ofList (names : List String) : (ofList names).Increasing := by
  have goesOn : ∀ {set : NameSet},
      set.Increasing → (names.foldl NameSet.insert set).Increasing := by
    induction names with
    | nil => exact fun increasing => increasing
    | cons name rest ih => exact fun increasing => ih (increasing.insert name)
  exact goesOn increasing_empty

/-- No name occurs twice in an increasing set. -/
theorem Increasing.nodup_toList
    {set : NameSet}
    (increasing : set.Increasing) :
    set.toList.Nodup := by
  apply List.Pairwise.imp _ increasing
  intro left right below equal
  subst equal
  exact String.lt_irrefl left below

end NameSet

end LuauNodes
