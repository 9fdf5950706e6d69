/-!
# Maps that remember insertion order

A finite map kept as a list of entries in the order in which their keys became
present.  Writing to a key that is present keeps its place; a key that is
erased and written again goes to the end.  The main statements are the two
look-up equations for `insert` and `erase` and the effect of both on the list of
keys.
-/

namespace LuauNodes

/-- A finite map with its entries in insertion order. -/
structure OrderedMap (κ : Type) (α : Type) where
  entries : List (κ × α)
  deriving DecidableEq

namespace OrderedMap

variable {κ α β : Type}

/-- The map without entries. -/
def empty : OrderedMap κ α := ⟨[]⟩

instance : EmptyCollection (OrderedMap κ α) := ⟨empty⟩

instance : Inhabited (OrderedMap κ α) := ⟨empty⟩

/-- The keys in insertion order. -/
def keys (map : OrderedMap κ α) : List κ := map.entries.map (·.1)

/-- The values in insertion order of their keys. -/
def values (map : OrderedMap κ α) : List α := map.entries.map (·.2)

/-- The number of entries. -/
def size (map : OrderedMap κ α) : Nat := map.entries.length

/-- There is no entry. -/
def isEmpty (map : OrderedMap κ α) : Bool := map.entries.isEmpty

/-- Applies a function to every value. -/
def mapValues (f : α → β) (map : OrderedMap κ α) : OrderedMap κ β :=
  ⟨map.entries.map fun entry => (entry.1, f entry.2)⟩

variable [DecidableEq κ]

/-- The value at a key in a list of entries. -/
def lookup (key : κ) : List (κ × α) → Option α
  | [] => none
  | entry :: rest => if entry.1 = key then some entry.2 else lookup key rest

/-- Writes a value at the place of its key, or at the end. -/
def put (key : κ) (value : α) : List (κ × α) → List (κ × α)
  | [] => [(key, value)]
  | entry :: rest => if entry.1 = key then (key, value) :: rest else entry :: put key value rest

/-- The value at a key. -/
def get? (map : OrderedMap κ α) (key : κ) : Option α := lookup key map.entries

/-- The value at a key, or a default. -/
def getD (map : OrderedMap κ α) (key : κ) (default : α) : α := (map.get? key).getD default

/-- The key has an entry. -/
def contains (map : OrderedMap κ α) (key : κ) : Bool := (map.get? key).isSome

/-- Writes a value; a present key keeps its place, a new one goes to the end. -/
def insert (map : OrderedMap κ α) (key : κ) (value : α) : OrderedMap κ α :=
  ⟨put key value map.entries⟩

/-- Removes the entry of a key. -/
def erase (map : OrderedMap κ α) (key : κ) : OrderedMap κ α :=
  ⟨map.entries.filter fun entry => entry.1 ≠ key⟩

/-- Changes the value at a key that is present. -/
def modify (map : OrderedMap κ α) (key : κ) (f : α → α) : OrderedMap κ α :=
  ⟨map.entries.map fun entry => if entry.1 = key then (entry.1, f entry.2) else entry⟩

/-- The map that results from writing a list of entries in turn. -/
def ofList (entries : List (κ × α)) : OrderedMap κ α :=
  entries.foldl (fun map entry => map.insert entry.1 entry.2) empty

/-- No key has two entries. -/
def Distinct (map : OrderedMap κ α) : Prop := map.keys.Nodup

/-! ## Look-up -/

@[simp]
theorem get?_empty (key : κ) : (empty : OrderedMap κ α).get? key = none := rfl

theorem lookup_put
    (entries : List (κ × α))
    (key other : κ)
    (value : α) :
    lookup other (put key value entries) =
      if key = other then some value else lookup other entries := by
  induction entries with
  | nil => simp [put, lookup]
  | cons entry rest ih =>
      by_cases same : entry.1 = key
      · by_cases target : key = other
        · simp [put, same, lookup, target]
        · have apart : ¬ entry.1 = other := fun equal => target (same ▸ equal)
          simp [put, same, lookup, target]
      · by_cases target : entry.1 = other
        · subst target
          have apart : ¬ key = entry.1 := fun equal => same equal.symm
          simp [put, same, lookup, apart]
        · simp [put, same, lookup, target, ih]

/-- Writing changes the value at its own key and nowhere else. -/
@[simp]
theorem get?_insert
    (map : OrderedMap κ α)
    (key other : κ)
    (value : α) :
    (map.insert key value).get? other =
      if key = other then some value else map.get? other :=
  lookup_put map.entries key other value

theorem lookup_filter_ne
    (entries : List (κ × α))
    (key other : κ) :
    lookup other (entries.filter fun entry => entry.1 ≠ key) =
      if key = other then none else lookup other entries := by
  induction entries with
  | nil => simp [lookup]
  | cons entry rest ih =>
      by_cases same : entry.1 = key
      · by_cases target : key = other
        · simp_all
        · have apart : ¬ entry.1 = other := fun equal => target (same ▸ equal)
          simp_all [lookup]
      · by_cases target : entry.1 = other
        · subst target
          have apart : ¬ key = entry.1 := fun equal => same equal.symm
          simp [same, lookup, apart]
        · simp_all [lookup]

/-- Erasing empties its own key and leaves every other one. -/
@[simp]
theorem get?_erase
    (map : OrderedMap κ α)
    (key other : κ) :
    (map.erase key).get? other = if key = other then none else map.get? other :=
  lookup_filter_ne map.entries key other

theorem lookup_map_modify
    (entries : List (κ × α))
    (key other : κ)
    (f : α → α) :
    lookup other (entries.map fun entry =>
        if entry.1 = key then (entry.1, f entry.2) else entry) =
      if key = other then (lookup other entries).map f else lookup other entries := by
  induction entries with
  | nil => simp [lookup]
  | cons entry rest ih =>
      by_cases same : entry.1 = key
      · by_cases target : key = other
        · simp [lookup, same, target]
        · have apart : ¬ entry.1 = other := fun equal => target (same ▸ equal)
          simp [lookup, same, target, ih]
      · by_cases target : entry.1 = other
        · subst target
          have apart : ¬ key = entry.1 := fun equal => same equal.symm
          simp [lookup, same, apart]
        · simp [lookup, same, target, ih]

/-- Changing a value at a key changes nothing elsewhere, and nothing where the key is absent. -/
@[simp]
theorem get?_modify
    (map : OrderedMap κ α)
    (key other : κ)
    (f : α → α) :
    (map.modify key f).get? other =
      if key = other then (map.get? other).map f else map.get? other :=
  lookup_map_modify map.entries key other f

/-- Changing a value does not show in a part of it that stays the same. -/
theorem map_get?_modify_of_kept
    (map : OrderedMap κ α)
    (key other : κ)
    (part : α → β)
    {f : α → α}
    (kept : ∀ value, part (f value) = part value) :
    ((map.modify key f).get? other).map part = (map.get? other).map part := by
  rw [get?_modify]
  split
  · rw [Option.map_map]
    exact congrArg (fun f => (map.get? other).map f) (funext kept)
  · rfl

/-- Erasing a list of keys empties those keys and leaves every other one. -/
theorem get?_foldl_erase
    (keys : List κ)
    (map : OrderedMap κ α)
    (other : κ) :
    (keys.foldl erase map).get? other = if other ∈ keys then none else map.get? other := by
  induction keys generalizing map with
  | nil => simp
  | cons key rest ih =>
      rw [List.foldl_cons, ih, get?_erase]
      by_cases here : key = other
      · subst here
        simp
      · have apart : ¬ other = key := fun equal => here equal.symm
        simp [here, apart]

/-! ## Keys -/

theorem lookup_isSome_iff
    (entries : List (κ × α))
    (key : κ) :
    (lookup key entries).isSome = true ↔ key ∈ entries.map (·.1) := by
  induction entries with
  | nil => simp [lookup]
  | cons entry rest ih =>
      by_cases same : entry.1 = key
      · simp [lookup, same]
      · have apart : ¬ key = entry.1 := fun equal => same equal.symm
        simp [lookup, same, ih, apart]

theorem contains_iff_mem_keys
    (map : OrderedMap κ α)
    (key : κ) :
    map.contains key = true ↔ key ∈ map.keys :=
  lookup_isSome_iff map.entries key

theorem put_keys
    (entries : List (κ × α))
    (key : κ)
    (value : α) :
    (put key value entries).map (·.1) =
      if key ∈ entries.map (·.1) then entries.map (·.1)
      else entries.map (·.1) ++ [key] := by
  induction entries with
  | nil => simp [put]
  | cons entry rest ih =>
      by_cases same : entry.1 = key
      · simp [put, same]
      · have apart : ¬ key = entry.1 := fun equal => same equal.symm
        by_cases member : key ∈ rest.map (·.1)
        · simp only [put, same, if_false, List.map_cons, ih, member, if_true, List.mem_cons,
            or_true]
        · simp only [put, same, if_false, List.map_cons, ih, member, List.mem_cons, apart,
            or_self, List.cons_append]

/-- Writing keeps the list of keys, or adds the key at its end. -/
theorem keys_insert
    (map : OrderedMap κ α)
    (key : κ)
    (value : α) :
    (map.insert key value).keys =
      if key ∈ map.keys then map.keys else map.keys ++ [key] :=
  put_keys map.entries key value

/-- Erasing removes the key from the list of keys. -/
theorem keys_erase
    (map : OrderedMap κ α)
    (key : κ) :
    (map.erase key).keys = map.keys.filter (· ≠ key) := by
  simp only [keys, erase, List.filter_map]
  rfl

/-- Changing a value keeps the list of keys. -/
theorem keys_modify
    (map : OrderedMap κ α)
    (key : κ)
    (f : α → α) :
    (map.modify key f).keys = map.keys := by
  simp only [keys, modify, List.map_map]
  apply List.map_congr_left
  intro entry _
  by_cases same : entry.1 = key <;> simp [same]

omit [DecidableEq κ] in
theorem distinct_empty : (empty : OrderedMap κ α).Distinct := by
  simp [Distinct, keys, empty]

theorem Distinct.insert
    {map : OrderedMap κ α}
    (distinct : map.Distinct)
    (key : κ)
    (value : α) :
    (map.insert key value).Distinct := by
  unfold Distinct at *
  rw [keys_insert]
  split
  · exact distinct
  · rename_i absent
    rw [List.nodup_append]
    refine ⟨distinct, by simp, ?_⟩
    intro left leftMember right rightMember
    rw [List.mem_singleton] at rightMember
    subst rightMember
    intro equal
    exact absent (equal ▸ leftMember)

theorem Distinct.erase
    {map : OrderedMap κ α}
    (distinct : map.Distinct)
    (key : κ) :
    (map.erase key).Distinct := by
  unfold Distinct at *
  rw [keys_erase]
  exact distinct.filter _

theorem Distinct.modify
    {map : OrderedMap κ α}
    (distinct : map.Distinct)
    (key : κ)
    (f : α → α) :
    (map.modify key f).Distinct := by
  unfold Distinct at *
  rw [keys_modify]
  exact distinct

theorem Distinct.foldl_erase
    {map : OrderedMap κ α}
    (distinct : map.Distinct)
    (keys : List κ) :
    (keys.foldl OrderedMap.erase map).Distinct := by
  induction keys generalizing map with
  | nil => exact distinct
  | cons key rest ih => exact ih (distinct.erase key)

/-! ## Entries -/

theorem mem_of_lookup_eq_some
    (entries : List (κ × α))
    (key : κ)
    (value : α)
    (found : lookup key entries = some value) :
    (key, value) ∈ entries := by
  induction entries with
  | nil => simp [lookup] at found
  | cons entry rest ih =>
      by_cases same : entry.1 = key
      · subst same
        simp only [lookup, if_true, Option.some.injEq] at found
        subst found
        exact List.mem_cons_self
      · simp only [lookup, same, if_false] at found
        exact List.mem_cons_of_mem entry (ih found)

/-- What look-up finds is a value of the map. -/
theorem mem_values_of_get?_eq_some
    {map : OrderedMap κ α}
    {key : κ}
    {value : α}
    (found : map.get? key = some value) :
    value ∈ map.values :=
  List.mem_map.mpr ⟨(key, value), mem_of_lookup_eq_some map.entries key value found, rfl⟩

/-- What look-up finds has its key among the keys. -/
theorem mem_keys_of_get?_eq_some
    {map : OrderedMap κ α}
    {key : κ}
    {value : α}
    (found : map.get? key = some value) :
    key ∈ map.keys :=
  List.mem_map.mpr ⟨(key, value), mem_of_lookup_eq_some map.entries key value found, rfl⟩

theorem lookup_eq_some_iff
    (entries : List (κ × α))
    (distinct : (entries.map (·.1)).Nodup)
    (key : κ)
    (value : α) :
    lookup key entries = some value ↔ (key, value) ∈ entries := by
  induction entries with
  | nil => simp [lookup]
  | cons entry rest ih =>
      rw [List.map_cons, List.nodup_cons] at distinct
      by_cases same : entry.1 = key
      · subst same
        have absent : (entry.1, value) ∉ rest :=
          fun member => distinct.1 (List.mem_map.mpr ⟨(entry.1, value), member, rfl⟩)
        simp [lookup, absent, Prod.ext_iff, eq_comm]
      · have apart : ¬ (key, value) = entry := fun equal => same (equal ▸ rfl)
        simp [lookup, same, apart, ih distinct.2]

/-- Where no key has two entries, the entries are what look-up finds. -/
theorem Distinct.get?_eq_some_iff
    {map : OrderedMap κ α}
    (distinct : map.Distinct)
    (key : κ)
    (value : α) :
    map.get? key = some value ↔ (key, value) ∈ map.entries :=
  lookup_eq_some_iff map.entries distinct key value

/-- Where no key has two entries, the values are what look-up finds at some key. -/
theorem Distinct.mem_values_iff
    {map : OrderedMap κ α}
    (distinct : map.Distinct)
    (value : α) :
    value ∈ map.values ↔ ∃ key, map.get? key = some value := by
  simp only [values, List.mem_map, distinct.get?_eq_some_iff]
  constructor
  · rintro ⟨entry, member, rfl⟩
    exact ⟨entry.1, member⟩
  · rintro ⟨key, member⟩
    exact ⟨(key, value), member, rfl⟩

/-- Erasing a list of keys leaves the other entries in their order. -/
theorem entries_foldl_erase
    (keys : List κ)
    (map : OrderedMap κ α) :
    (keys.foldl erase map).entries = map.entries.filter fun entry => entry.1 ∉ keys := by
  induction keys generalizing map with
  | nil => exact (List.filter_eq_self.mpr (by simp)).symm
  | cons key rest ih =>
      rw [List.foldl_cons, ih, erase, List.filter_filter]
      refine List.filter_congr fun entry _ => ?_
      simp [Bool.and_comm]

theorem filter_put
    (entries : List (κ × α))
    (key : κ)
    (value : α) :
    ((put key value entries).filter fun entry => entry.1 ≠ key) =
      entries.filter fun entry => entry.1 ≠ key := by
  induction entries with
  | nil => simp [put]
  | cons entry rest ih =>
      by_cases same : entry.1 = key
      · simp [put, same]
      · simp only [put, same, if_false, List.filter_cons, ih]

/-- A value that is written does not show once its key is erased. -/
@[simp]
theorem erase_insert
    (map : OrderedMap κ α)
    (key : κ)
    (value : α) :
    (map.insert key value).erase key = map.erase key :=
  congrArg OrderedMap.mk (filter_put map.entries key value)

@[simp]
theorem erase_erase
    (map : OrderedMap κ α)
    (key : κ) :
    (map.erase key).erase key = map.erase key := by
  simp [erase]

theorem not_mem_of_lookup_eq_none
    {entries : List (κ × α)}
    {key : κ}
    (absent : lookup key entries = none) :
    key ∉ entries.map (·.1) := by
  rw [← lookup_isSome_iff, absent]
  exact Bool.false_ne_true

theorem filter_of_lookup_eq_none
    {entries : List (κ × α)}
    {key : κ}
    (absent : lookup key entries = none) :
    (entries.filter fun entry => entry.1 ≠ key) = entries := by
  refine List.filter_eq_self.mpr fun entry member => ?_
  have missing := not_mem_of_lookup_eq_none absent
  exact decide_eq_true fun same => missing (same ▸ List.mem_map_of_mem member)

/-- Erasing a key that has no entry changes nothing. -/
theorem erase_eq_self
    {map : OrderedMap κ α}
    {key : κ}
    (absent : map.get? key = none) :
    map.erase key = map :=
  congrArg OrderedMap.mk (filter_of_lookup_eq_none absent)

theorem put_of_not_mem
    (entries : List (κ × α))
    (key : κ)
    (value : α)
    (absent : key ∉ entries.map (·.1)) :
    put key value entries = entries ++ [(key, value)] := by
  induction entries with
  | nil => rfl
  | cons entry rest ih =>
      rw [List.map_cons, List.mem_cons, not_or] at absent
      have apart : ¬ entry.1 = key := fun same => absent.1 same.symm
      rw [put, if_neg apart, ih absent.2, List.cons_append]

/-- A value under a new key goes to the end. -/
theorem values_insert_of_get?_eq_none
    {map : OrderedMap κ α}
    {key : κ}
    (absent : map.get? key = none)
    (value : α) :
    (map.insert key value).values = map.values ++ [value] := by
  rw [values, insert, put_of_not_mem _ _ _ (not_mem_of_lookup_eq_none absent), List.map_append]
  rfl

/-- A value under a new key can be changed before it is written. -/
theorem modify_insert_of_get?_eq_none
    {map : OrderedMap κ α}
    {key : κ}
    (absent : map.get? key = none)
    (value : α)
    (f : α → α) :
    (map.insert key value).modify key f = map.insert key (f value) := by
  have missing := not_mem_of_lookup_eq_none absent
  have kept : (map.entries.map fun entry =>
      if entry.1 = key then (entry.1, f entry.2) else entry) = map.entries := by
    refine (List.map_congr_left fun entry member => if_neg ?_).trans (List.map_id map.entries)
    rintro rfl
    exact missing (List.mem_map_of_mem member)
  refine congrArg OrderedMap.mk ?_
  show (put key value map.entries).map _ = put key (f value) map.entries
  rw [put_of_not_mem _ _ _ missing, put_of_not_mem _ _ _ missing, List.map_append, kept]
  simp

omit [DecidableEq κ] in
theorem values_mapValues (map : OrderedMap κ α) (f : α → β) :
    (map.mapValues f).values = map.values.map f := by
  simp [values, mapValues]

omit [DecidableEq κ] in
theorem mapValues_mapValues {γ : Type} (map : OrderedMap κ α) (f : α → β) (g : β → γ) :
    (map.mapValues f).mapValues g = map.mapValues (g ∘ f) := by
  simp [mapValues]

theorem lookup_mapValues
    (entries : List (κ × α))
    (key : κ)
    (f : α → β) :
    lookup key (entries.map fun entry => (entry.1, f entry.2)) = (lookup key entries).map f := by
  induction entries with
  | nil => rfl
  | cons entry rest ih =>
      rw [List.map_cons, lookup, lookup, ih]
      split <;> rfl

@[simp]
theorem get?_mapValues
    (map : OrderedMap κ α)
    (key : κ)
    (f : α → β) :
    (map.mapValues f).get? key = (map.get? key).map f :=
  lookup_mapValues map.entries key f

theorem put_mapValues
    (entries : List (κ × α))
    (key : κ)
    (value : α)
    (f : α → β) :
    put key (f value) (entries.map fun entry => (entry.1, f entry.2)) =
      (put key value entries).map fun entry => (entry.1, f entry.2) := by
  induction entries with
  | nil => rfl
  | cons entry rest ih =>
      rw [List.map_cons, put, put, ih]
      split <;> rfl

theorem insert_mapValues
    (map : OrderedMap κ α)
    (key : κ)
    (value : α)
    (f : α → β) :
    (map.mapValues f).insert key (f value) = (map.insert key value).mapValues f :=
  congrArg OrderedMap.mk (put_mapValues map.entries key value f)

theorem mem_put
    {entries : List (κ × α)}
    {key : κ}
    {value : α}
    {entry : κ × α}
    (member : entry ∈ put key value entries) :
    entry = (key, value) ∨ entry ∈ entries := by
  induction entries with
  | nil => exact Or.inl (List.mem_singleton.mp member)
  | cons head rest ih =>
      unfold put at member
      split at member
      · exact (List.mem_cons.mp member).imp_right (List.mem_cons_of_mem head)
      · rcases List.mem_cons.mp member with rfl | later
        · exact Or.inr List.mem_cons_self
        · exact (ih later).imp_right (List.mem_cons_of_mem head)

/-- A value is written, or was there before. -/
theorem mem_values_insert
    {map : OrderedMap κ α}
    {key : κ}
    {value other : α}
    (member : other ∈ (map.insert key value).values) :
    other = value ∨ other ∈ map.values := by
  obtain ⟨entry, written, rfl⟩ := List.mem_map.mp member
  rcases mem_put written with rfl | before
  · exact Or.inl rfl
  · exact Or.inr (List.mem_map_of_mem before)

/-- Writing entries with different keys keeps them in their order. -/
theorem entries_ofList
    {entries : List (κ × α)}
    (distinct : (entries.map (·.1)).Nodup) :
    (ofList entries).entries = entries := by
  -- The induction is on what is still to be written.
  have goesOn : ∀ rest done : List (κ × α), ((done ++ rest).map (·.1)).Nodup →
      (rest.foldl (fun (map : OrderedMap κ α) entry => map.insert entry.1 entry.2)
        ⟨done⟩).entries = done ++ rest := by
    intro rest
    induction rest with
    | nil => simp
    | cons entry rest ih =>
        intro done nodup
        have absent : entry.1 ∉ done.map (·.1) := by
          rw [List.map_append, List.nodup_append] at nodup
          intro member
          exact nodup.2.2 _ member _ (List.mem_map_of_mem List.mem_cons_self) rfl
        have written : (⟨done⟩ : OrderedMap κ α).insert entry.1 entry.2 = ⟨done ++ [entry]⟩ :=
          congrArg OrderedMap.mk (put_of_not_mem done entry.1 entry.2 absent)
        rw [List.append_cons] at nodup ⊢
        rw [List.foldl_cons, written]
        exact ih (done ++ [entry]) nodup
  exact goesOn entries [] distinct

theorem get?_ofList_eq_some_iff
    {entries : List (κ × α)}
    (distinct : (entries.map (·.1)).Nodup)
    (key : κ)
    (value : α) :
    (ofList entries).get? key = some value ↔ (key, value) ∈ entries := by
  have written := entries_ofList distinct
  have keys : (ofList entries).Distinct := by rwa [Distinct, OrderedMap.keys, written]
  rw [keys.get?_eq_some_iff, written]

/-- What look-up finds was written. -/
theorem mem_of_get?_ofList_eq_some
    {entries : List (κ × α)}
    {key : κ}
    {value : α}
    (found : (ofList entries).get? key = some value) :
    (key, value) ∈ entries := by
  have goesOn : ∀ (rest : List (κ × α)) (map : OrderedMap κ α),
      (rest.foldl (fun map entry => map.insert entry.1 entry.2) map).get? key = some value →
        map.get? key = some value ∨ (key, value) ∈ rest := by
    intro rest
    induction rest with
    | nil => exact fun _ found => Or.inl found
    | cons entry rest ih =>
        intro map found
        rcases ih _ found with earlier | later
        · rw [get?_insert] at earlier
          split at earlier
          · rename_i same
            cases same
            cases earlier
            exact Or.inr List.mem_cons_self
          · exact Or.inl earlier
        · exact Or.inr (List.mem_cons_of_mem entry later)
  rcases goesOn entries empty found with none | written
  · cases none
  · exact written

/-! ## Properties of every entry -/

/-- Whatever look-up finds has a property. -/
def Everywhere (Holds : κ → α → Prop) (map : OrderedMap κ α) : Prop :=
  ∀ key value, map.get? key = some value → Holds key value

section Everywhere

variable {Holds : κ → α → Prop} {map : OrderedMap κ α}

theorem everywhere_empty : (empty : OrderedMap κ α).Everywhere Holds := by
  intro key value found
  cases found

theorem Everywhere.insert
    (everywhere : map.Everywhere Holds)
    {key : κ}
    {value : α}
    (here : Holds key value) :
    (map.insert key value).Everywhere Holds := by
  intro other found foundAt
  rw [get?_insert] at foundAt
  split at foundAt
  · rename_i same
    subst same
    cases foundAt
    exact here
  · exact everywhere other found foundAt

theorem Everywhere.erase
    (everywhere : map.Everywhere Holds)
    (key : κ) :
    (map.erase key).Everywhere Holds := by
  intro other found foundAt
  rw [get?_erase] at foundAt
  split at foundAt
  · cases foundAt
  · exact everywhere other found foundAt

theorem Everywhere.foldl_erase
    (everywhere : map.Everywhere Holds)
    (keys : List κ) :
    (keys.foldl OrderedMap.erase map).Everywhere Holds := by
  intro other found foundAt
  rw [get?_foldl_erase] at foundAt
  split at foundAt
  · cases foundAt
  · exact everywhere other found foundAt

theorem Everywhere.modify
    (everywhere : map.Everywhere Holds)
    {key : κ}
    {f : α → α}
    (kept : ∀ value, Holds key value → Holds key (f value)) :
    (map.modify key f).Everywhere Holds := by
  intro other found foundAt
  rw [get?_modify] at foundAt
  split at foundAt
  · rename_i same
    subst same
    obtain ⟨value, before, rfl⟩ := Option.map_eq_some_iff.mp foundAt
    exact kept value (everywhere key value before)
  · exact everywhere other found foundAt

end Everywhere

omit [DecidableEq κ] in
theorem eq_empty_of_isEmpty
    {map : OrderedMap κ α}
    (bare : map.isEmpty = true) :
    map = empty := by
  cases map with
  | mk entries =>
      have none : entries = [] := List.isEmpty_iff.mp bare
      rw [none]
      rfl

end OrderedMap

end LuauNodes
