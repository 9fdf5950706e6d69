import LuauNodes.Proofs.Registry.Tidiness
import Mathlib.Data.List.Induction
import Mathlib.Data.List.Nodup

/-!
# The order of declaration

What a symbol table holds is told by the edits that were made to it.  For every
key by itself there is a value that some edits write, some change and some take
away.  A table lists, document by document, the keys that have a value, each of
them once and in the order of the edits with which they became present; writing
to a key that is present does not move it.  A table keeps nothing else: no
document without symbols, and no symbol that is not counted.
-/

namespace LuauNodes

open OrderedMap

/-! ## Edits -/

/-- A change of a symbol table. -/
inductive TableEdit where
  | declare (document : String) (symbol : Symbol)
  | revise (document : String) (key : SymbolKey) (fields : Record.Fields)
  | remove (document : String) (key : SymbolKey)
  | removeMembers (document : String) (scopeId : Option String)
  | clear (document : String)

namespace TableEdit

/-- The document that an edit is about. -/
def document : TableEdit → String
  | declare document _ => document
  | revise document _ _ => document
  | remove document _ => document
  | removeMembers document _ => document
  | clear document => document

/-- The table after an edit; a revision that is not accepted leaves it as it is. -/
def apply (table : SymbolTable) : TableEdit → SymbolTable
  | declare document symbol => table.declare document symbol
  | revise document key fields =>
    match table.revise document key fields with
    | .revised _ after => after
    | .missing => table
    | .rejected _ => table
  | remove document key => table.remove document key
  | removeMembers document scopeId => table.removeMembers document scopeId
  | clear document => table.clear document

/-- The symbol after a revision; improper values leave it as it is. -/
def revised (fields : Record.Fields) (symbol : Symbol) : Symbol :=
  match symbol.merge fields with
  | .ok merged => merged
  | .bad _ => symbol

/-- What an edit of a document makes of the value at a key there. -/
def effect (key : SymbolKey) (value : Option Symbol) : TableEdit → Option Symbol
  | declare _ symbol => if symbol.key = key then some symbol else value
  | revise _ other fields => if other = key then value.map (revised fields) else value
  | remove _ other => if other = key then none else value
  | removeMembers _ scopeId => if key.scopeId = scopeId then none else value
  | clear _ => none

end TableEdit

/-- The table that some edits make of the empty one. -/
def SymbolTable.afterEdits (history : List TableEdit) : SymbolTable :=
  history.foldl TableEdit.apply ∅

/-- The value that some edits leave at a key of a document. -/
def valueAfter (history : List TableEdit) (document : String) (key : SymbolKey) : Option Symbol :=
  history.foldl (fun value edit =>
    if edit.document = document then edit.effect key value else value) none

/-- A key of a document has no value before one of the edits, and has one ever since. -/
structure PresentSince
    (history : List TableEdit)
    (document : String)
    (key : SymbolKey)
    (place : Nat) :
    Prop where
  within : place < history.length
  absent : valueAfter (history.take place) document key = none
  since : ∀ later, place < later → later ≤ history.length →
    (valueAfter (history.take later) document key).isSome = true

/-- One key of a document has been present for longer than another one. -/
def LongerPresent (history : List TableEdit) (document : String) (left right : SymbolKey) : Prop :=
  ∃ first second, PresentSince history document left first ∧
    PresentSince history document right second ∧ first < second

variable {history : List TableEdit} {edit : TableEdit} {document : String} {key : SymbolKey}
  {table : SymbolTable}

theorem valueAfter_append
    (history : List TableEdit)
    (edit : TableEdit)
    (document : String)
    (key : SymbolKey) :
    valueAfter (history ++ [edit]) document key =
      if edit.document = document then edit.effect key (valueAfter history document key)
      else valueAfter history document key := by
  rw [valueAfter, List.foldl_append]
  rfl

theorem valueAfter_append_here
    (here : edit.document = document)
    (key : SymbolKey) :
    valueAfter (history ++ [edit]) document key =
      edit.effect key (valueAfter history document key) :=
  (valueAfter_append history edit document key).trans (if_pos here)

theorem valueAfter_append_elsewhere
    (apart : edit.document ≠ document)
    (key : SymbolKey) :
    valueAfter (history ++ [edit]) document key = valueAfter history document key :=
  (valueAfter_append history edit document key).trans (if_neg apart)

/-! ## Since when a key is present -/

/-- An edit that leaves a value at a key leaves the time since when it is present. -/
theorem PresentSince.append
    {place : Nat}
    (present : PresentSince history document key place)
    (still : (valueAfter (history ++ [edit]) document key).isSome = true) :
    PresentSince (history ++ [edit]) document key place where
  within := by
    rw [List.length_append]
    exact Nat.lt_add_right 1 present.within
  absent := by
    rw [List.take_append_of_le_length (Nat.le_of_lt present.within)]
    exact present.absent
  since := by
    intro later after bound
    rcases Nat.lt_or_ge history.length later with beyond | before
    · rw [List.take_of_length_le (by rw [List.length_append, List.length_singleton]; omega)]
      exact still
    · rw [List.take_append_of_le_length before]
      exact present.since later after before

/-- An edit that writes to a key without a value makes it present. -/
theorem presentSince_length
    (absent : valueAfter history document key = none)
    (written : (valueAfter (history ++ [edit]) document key).isSome = true) :
    PresentSince (history ++ [edit]) document key history.length where
  within := by
    rw [List.length_append, List.length_singleton]
    exact Nat.lt_succ_self _
  absent := by
    rw [List.take_left' rfl]
    exact absent
  since := by
    intro later after _
    rw [List.take_of_length_le (by rw [List.length_append, List.length_singleton]; omega)]
    exact written

/-- Every key with a value is present since some edit. -/
theorem exists_presentSince
    (present : (valueAfter history document key).isSome = true) :
    ∃ place, PresentSince history document key place := by
  induction history using List.reverseRecOn with
  | nil => cases present
  | append_singleton history edit ih =>
      cases before : valueAfter history document key with
      | none => exact ⟨_, presentSince_length before present⟩
      | some symbol =>
          obtain ⟨place, since⟩ := ih (by rw [before]; rfl)
          exact ⟨place, since.append present⟩

/-- Keys that keep a value stay in their order. -/
theorem pairwise_longerPresent_append
    {keys : List SymbolKey}
    (ordered : keys.Pairwise (LongerPresent history document))
    (still : ∀ key ∈ keys, (valueAfter (history ++ [edit]) document key).isSome = true) :
    keys.Pairwise (LongerPresent (history ++ [edit]) document) := by
  refine ordered.imp_of_mem fun leftMember rightMember before => ?_
  obtain ⟨first, second, left, right, below⟩ := before
  exact ⟨first, second, left.append (still _ leftMember), right.append (still _ rightMember), below⟩

/-! ## The symbols of a document -/

/-- Some symbols are those that a history leaves in a document. -/
structure KeptAt
    (history : List TableEdit)
    (document : String)
    (symbols : SymbolEntries) :
    Prop where
  distinct : symbols.Distinct
  keyed : symbols.Everywhere fun key symbol => symbol.key = key
  lookup : ∀ key, symbols.get? key = valueAfter history document key
  ordered : symbols.keys.Pairwise (LongerPresent history document)

variable {symbols : SymbolEntries}

theorem KeptAt.present
    (kept : KeptAt history document symbols)
    {key : SymbolKey}
    (member : key ∈ symbols.keys) :
    (valueAfter history document key).isSome = true := by
  rw [← kept.lookup]
  exact (symbols.contains_iff_mem_keys key).mpr member

/-- Symbols that are left out leave the others in their order. -/
theorem KeptAt.thin
    (kept : KeptAt history document symbols)
    {rest : SymbolEntries}
    (sublist : rest.keys.Sublist symbols.keys)
    (found : ∀ key symbol, rest.get? key = some symbol → symbols.get? key = some symbol)
    (lookup : ∀ key, rest.get? key = valueAfter (history ++ [edit]) document key) :
    KeptAt (history ++ [edit]) document rest where
  distinct := kept.distinct.sublist sublist
  keyed := fun key symbol present => kept.keyed key symbol (found key symbol present)
  lookup := lookup
  ordered := by
    refine pairwise_longerPresent_append (kept.ordered.sublist sublist) fun key member => ?_
    rw [← lookup]
    exact (rest.contains_iff_mem_keys key).mpr member

/-- A symbol that is written keeps its place, or goes to the end if its key is new. -/
theorem KeptAt.write
    (kept : KeptAt history document symbols)
    {key : SymbolKey}
    {symbol : Symbol}
    (own : symbol.key = key)
    (value : ∀ other, valueAfter (history ++ [edit]) document other =
      if key = other then some symbol else valueAfter history document other) :
    KeptAt (history ++ [edit]) document (symbols.insert key symbol) where
  distinct := kept.distinct.insert key symbol
  keyed := kept.keyed.insert own
  lookup := by
    intro other
    rw [get?_insert, value, kept.lookup]
  ordered := by
    have still : ∀ other ∈ symbols.keys,
        (valueAfter (history ++ [edit]) document other).isSome = true := by
      intro other member
      rw [value]
      split
      · rfl
      · exact kept.present member
    have ordered := pairwise_longerPresent_append kept.ordered still
    rw [keys_insert]
    split
    · exact ordered
    · -- A new key goes behind all others, which are present since earlier edits.
      rename_i fresh
      have absent : valueAfter history document key = none := by
        rw [← kept.lookup, ← Option.not_isSome_iff_eq_none]
        exact fun present => fresh ((symbols.contains_iff_mem_keys key).mp present)
      have written : (valueAfter (history ++ [edit]) document key).isSome = true := by
        rw [value, if_pos rfl]
        rfl
      refine List.pairwise_append.mpr ⟨ordered, List.pairwise_singleton _ _, ?_⟩
      intro other member last here
      rw [List.mem_singleton.mp here]
      obtain ⟨place, since⟩ := exists_presentSince (kept.present member)
      exact ⟨place, history.length, since.append (still other member),
        presentSince_length absent written, since.within⟩

theorem keptAt_nil (document : String) : KeptAt [] document ∅ where
  distinct := distinct_empty
  keyed := everywhere_empty
  lookup := fun _ => rfl
  ordered := List.Pairwise.nil

/-! ## One edit -/

/-- An edit of another document changes nothing here. -/
theorem KeptAt.elsewhere
    (kept : KeptAt history document symbols)
    (apart : edit.document ≠ document) :
    KeptAt (history ++ [edit]) document symbols := by
  refine kept.thin (List.Sublist.refl _) (fun _ _ found => found) fun key => ?_
  rw [valueAfter_append_elsewhere apart]
  exact kept.lookup key

theorem KeptAt.declare
    (kept : KeptAt history document symbols)
    (symbol : Symbol) :
    KeptAt (history ++ [.declare document symbol]) document (symbols.insert symbol.key symbol) := by
  exact kept.write rfl fun other => valueAfter_append_here rfl other

theorem Symbol.key_of_merge
    {symbol merged : Symbol}
    {fields : Record.Fields}
    (accepted : symbol.merge fields = .ok merged) :
    merged.key = symbol.key := by
  obtain ⟨name, owner, -⟩ := Symbol.merge_eq_ok accepted
  rw [Symbol.key, Symbol.key, name, owner]

/-- An accepted revision writes the changed symbol at its key. -/
theorem KeptAt.revise
    (kept : KeptAt history document symbols)
    {key : SymbolKey}
    {fields : Record.Fields}
    {current merged : Symbol}
    (found : symbols.get? key = some current)
    (accepted : current.merge fields = .ok merged) :
    KeptAt (history ++ [.revise document key fields]) document (symbols.insert key merged) := by
  have own : merged.key = key :=
    (Symbol.key_of_merge accepted).trans (kept.keyed key current found)
  have within : (TableEdit.revise document key fields).document = document := rfl
  refine kept.write own fun other => ?_
  rw [valueAfter_append_here within]
  by_cases here : key = other
  · subst here
    rw [if_pos rfl, ← kept.lookup, found]
    simp [TableEdit.effect, TableEdit.revised, accepted]
  · rw [if_neg here]
    exact if_neg here

/-- A revision that is not accepted changes nothing. -/
theorem KeptAt.unrevised
    (kept : KeptAt history document symbols)
    {key : SymbolKey}
    {fields : Record.Fields}
    (unaccepted : ∀ current, symbols.get? key = some current →
      TableEdit.revised fields current = current) :
    KeptAt (history ++ [.revise document key fields]) document symbols := by
  have within : (TableEdit.revise document key fields).document = document := rfl
  refine kept.thin (List.Sublist.refl _) (fun _ _ found => found) fun other => ?_
  rw [valueAfter_append_here within, ← kept.lookup]
  show symbols.get? other = if key = other then _ else symbols.get? other
  split
  · rename_i here
    subst here
    cases found : symbols.get? key with
    | none => rfl
    | some current => rw [Option.map_some, unaccepted current found]
  · rfl

/-- Taking symbols away leaves the others in their order. -/
theorem KeptAt.drop
    (kept : KeptAt history document symbols)
    {gone : List SymbolKey}
    (lookup : ∀ key, (gone.foldl erase symbols).get? key =
      valueAfter (history ++ [edit]) document key) :
    KeptAt (history ++ [edit]) document (gone.foldl erase symbols) := by
  refine kept.thin ?_ ?_ lookup
  · rw [keys, entries_foldl_erase]
    exact List.filter_sublist.map _
  · intro key symbol found
    rw [get?_foldl_erase] at found
    split at found
    · cases found
    · exact found

theorem KeptAt.remove
    (kept : KeptAt history document symbols)
    (key : SymbolKey) :
    KeptAt (history ++ [.remove document key]) document (symbols.erase key) := by
  have within : (TableEdit.remove document key).document = document := rfl
  have lookup : ∀ other, ([key].foldl erase symbols).get? other =
      valueAfter (history ++ [.remove document key]) document other := by
    intro other
    rw [valueAfter_append_here within, ← kept.lookup]
    exact get?_erase symbols key other
  exact kept.drop lookup

theorem KeptAt.removeMembers
    (kept : KeptAt history document (table.entries document))
    (scopeId : Option String) :
    KeptAt (history ++ [.removeMembers document scopeId]) document
      ((table.memberKeys document scopeId).foldl erase (table.entries document)) := by
  have within : (TableEdit.removeMembers document scopeId).document = document := rfl
  refine kept.drop fun key => ?_
  rw [valueAfter_append_here within, ← kept.lookup]
  exact SymbolTable.get?_foldl_erase_memberKeys kept.distinct kept.keyed scopeId key

theorem KeptAt.clear (kept : KeptAt history document symbols) :
    KeptAt (history ++ [.clear document]) document ∅ := by
  have within : (TableEdit.clear document).document = document := rfl
  refine kept.thin (List.nil_sublist _) ?_ ?_
  · intro key symbol found
    cases found
  · intro key
    rw [valueAfter_append_here within]
    rfl

/-- A revision writes the changed symbol at its key, or changes nothing. -/
theorem TableEdit.apply_revise
    (table : SymbolTable)
    (document : String)
    (key : SymbolKey)
    (fields : Record.Fields) :
    (∃ current merged, (table.entries document).get? key = some current ∧
        current.merge fields = .ok merged ∧
        (revise document key fields).apply table =
          table.setEntries document ((table.entries document).insert key merged)) ∨
      ((revise document key fields).apply table = table ∧
        ∀ current, (table.entries document).get? key = some current →
          revised fields current = current) := by
  have applied : ∀ revision, table.revise document key fields = revision →
      (revise document key fields).apply table =
        match revision with
        | .revised _ after => after
        | .missing => table
        | .rejected _ => table := by
    rintro _ rfl
    rfl
  cases found : (table.entries document).get? key with
  | none =>
      refine Or.inr ⟨applied .missing ?_, by simp⟩
      rw [SymbolTable.revise, SymbolTable.lookup?, found]
  | some current =>
      cases accepted : current.merge fields with
      | bad faults =>
          refine Or.inr ⟨applied (.rejected faults) ?_, ?_⟩
          · rw [SymbolTable.revise, SymbolTable.lookup?, found]
            dsimp only
            rw [accepted]
          · rintro _ ⟨⟩
            rw [revised, accepted]
      | ok merged =>
          refine Or.inl ⟨current, merged, rfl, accepted, applied (.revised merged _) ?_⟩
          rw [SymbolTable.revise, SymbolTable.lookup?, found]
          dsimp only
          rw [accepted]

/-- An edit of one document leaves the symbols of every other. -/
theorem TableEdit.entries_apply_of_ne
    (table : SymbolTable)
    (apart : edit.document ≠ document) :
    (edit.apply table).entries document = table.entries document := by
  cases edit with
  | declare there symbol => exact (SymbolTable.entries_setEntries _ _ _ _).trans (if_neg apart)
  | revise there key fields =>
      rcases apply_revise table there key fields with ⟨_, _, _, _, written⟩ | ⟨unchanged, _⟩
      · rw [written]
        exact (SymbolTable.entries_setEntries _ _ _ _).trans (if_neg apart)
      · rw [unchanged]
  | remove there key => exact (SymbolTable.entries_remove _ _ _ _).trans (if_neg apart)
  | removeMembers there scopeId =>
      exact (SymbolTable.entries_removeEach _ _ _ _).trans (if_neg apart)
  | clear there => exact (SymbolTable.entries_clear _ _ _).trans (if_neg apart)

/-- An edit keeps the symbols of its document in step with the history. -/
theorem KeptAt.apply
    (kept : KeptAt history edit.document (table.entries edit.document)) :
    KeptAt (history ++ [edit]) edit.document ((edit.apply table).entries edit.document) := by
  cases edit with
  | declare there symbol =>
      show KeptAt _ there ((table.declare there symbol).entries there)
      rw [SymbolTable.declare, SymbolTable.entries_setEntries, if_pos rfl]
      exact KeptAt.declare kept symbol
  | revise there key fields =>
      show KeptAt _ there ((TableEdit.apply table (.revise there key fields)).entries there)
      rcases TableEdit.apply_revise table there key fields with
        ⟨current, merged, found, accepted, written⟩ | ⟨unchanged, unaccepted⟩
      · rw [written, SymbolTable.entries_setEntries, if_pos rfl]
        exact KeptAt.revise kept found accepted
      · rw [unchanged]
        exact KeptAt.unrevised kept unaccepted
  | remove there key =>
      show KeptAt _ there ((table.remove there key).entries there)
      rw [SymbolTable.entries_remove, if_pos rfl]
      exact KeptAt.remove kept key
  | removeMembers there scopeId =>
      show KeptAt _ there ((table.removeMembers there scopeId).entries there)
      rw [SymbolTable.removeMembers, SymbolTable.entries_removeEach, if_pos rfl]
      exact KeptAt.removeMembers kept scopeId
  | clear there =>
      show KeptAt _ there ((table.clear there).entries there)
      rw [SymbolTable.entries_clear, if_pos rfl]
      exact KeptAt.clear kept

/-! ## The documents of a table -/

/-- A table keeps every document once, and none without symbols. -/
structure Filled (table : SymbolTable) : Prop where
  distinct : table.documents.Distinct
  tidy : ∀ document, table.TidyAt document

theorem filled_empty : Filled ∅ where
  distinct := distinct_empty
  tidy := by
    intro document symbols found
    cases found

theorem Filled.setEntries
    (filled : Filled table)
    (document : String)
    (symbols : SymbolEntries) :
    Filled (table.setEntries document symbols) where
  distinct := by
    unfold SymbolTable.setEntries
    split
    · exact filled.distinct.erase document
    · exact filled.distinct.insert document symbols
  tidy := by
    intro other
    by_cases same : document = other
    · subst same
      exact SymbolTable.tidyAt_setEntries table document symbols
    · intro kept found
      have apart : (table.setEntries document symbols).documents.get? other =
          table.documents.get? other := by
        unfold SymbolTable.setEntries
        split
        · exact (get?_erase _ _ _).trans (if_neg same)
        · exact (get?_insert _ _ _ _).trans (if_neg same)
      exact filled.tidy other kept (apart.symm.trans found)

theorem Filled.removeEach
    (filled : Filled table)
    (document : String)
    (keys : List SymbolKey) :
    Filled (table.removeEach document keys).2 := by
  induction keys generalizing table with
  | nil => exact filled
  | cons key rest ih => exact ih (filled.setEntries document _)

theorem Filled.apply (filled : Filled table) (edit : TableEdit) : Filled (edit.apply table) := by
  cases edit with
  | declare there symbol => exact filled.setEntries there _
  | revise there key fields =>
      rcases TableEdit.apply_revise table there key fields with
        ⟨_, _, _, _, written⟩ | ⟨unchanged, _⟩
      · rw [written]
        exact filled.setEntries there _
      · rw [unchanged]
        exact filled
  | remove there key => exact filled.setEntries there _
  | removeMembers there scopeId => exact filled.removeEach there _
  | clear there => exact filled.setEntries there ∅

/-- A document is kept exactly where it has symbols. -/
theorem Filled.hasDocument_iff (filled : Filled table) (document : String) :
    table.hasDocument document = true ↔ table.list document ≠ [] := by
  constructor
  · intro present bare
    rw [SymbolTable.hasDocument, OrderedMap.contains, (filled.tidy document).get?_eq_none bare]
      at present
    cases present
  · intro inhabited
    by_contra absent
    rw [SymbolTable.hasDocument, OrderedMap.contains, Option.not_isSome_iff_eq_none] at absent
    rw [SymbolTable.list, SymbolTable.entries, getD, absent] at inhabited
    exact inhabited rfl

/-- The keys of all documents. -/
def SymbolTable.places (table : SymbolTable) : List (String × SymbolKey) :=
  table.documents.entries.flatMap fun kept => kept.2.keys.map fun key => (kept.1, key)

theorem SymbolTable.length_places (table : SymbolTable) : table.places.length = table.size := by
  have accumulate : ∀ (kept : List (String × SymbolEntries)) (total : Nat),
      (kept.map (·.2)).foldl (fun total symbols => total + symbols.size) total =
        total + (kept.flatMap fun kept => kept.2.keys.map fun key => (kept.1, key)).length := by
    intro kept
    induction kept with
    | nil => exact fun total => rfl
    | cons first rest ih =>
        intro total
        rw [List.map_cons, List.foldl_cons, ih, List.flatMap_cons, List.length_append,
          List.length_map, keys, List.length_map, OrderedMap.size]
        omega
  rw [size, values, accumulate, Nat.zero_add]
  rfl

theorem Filled.get?_eq_some_iff
    (filled : Filled table)
    (document : String)
    (symbols : SymbolEntries) :
    (document, symbols) ∈ table.documents.entries ↔
      symbols.isEmpty = false ∧ table.entries document = symbols := by
  rw [← filled.distinct.get?_eq_some_iff]
  constructor
  · intro found
    exact ⟨filled.tidy document symbols found, by rw [SymbolTable.entries, getD, found]; rfl⟩
  · rintro ⟨inhabited, rfl⟩
    unfold SymbolTable.entries getD at inhabited ⊢
    cases found : table.documents.get? document with
    | none =>
        rw [found] at inhabited
        cases inhabited
    | some symbols => rfl

theorem Filled.mem_places_iff
    (filled : Filled table)
    (document : String)
    (key : SymbolKey) :
    (document, key) ∈ table.places ↔ ((table.entries document).get? key).isSome = true := by
  rw [SymbolTable.places, List.mem_flatMap]
  constructor
  · rintro ⟨⟨there, symbols⟩, kept, among⟩
    obtain ⟨other, member, same⟩ := List.mem_map.mp among
    cases same
    rw [((filled.get?_eq_some_iff _ _).mp kept).2]
    exact (symbols.contains_iff_mem_keys key).mpr member
  · intro present
    have member := ((table.entries document).contains_iff_mem_keys key).mp present
    have inhabited : (table.entries document).isEmpty = false := by
      refine Bool.eq_false_iff.mpr fun bare => ?_
      rw [eq_empty_of_isEmpty bare] at member
      cases member
    exact ⟨(document, table.entries document), (filled.get?_eq_some_iff _ _).mpr ⟨inhabited, rfl⟩,
      List.mem_map_of_mem member⟩

theorem Filled.nodup_places
    (filled : Filled table)
    (distinct : ∀ document, (table.entries document).Distinct) :
    table.places.Nodup := by
  refine List.nodup_flatMap.mpr ⟨?_, ?_⟩
  · rintro ⟨there, symbols⟩ kept
    have keys : symbols.keys.Nodup := ((filled.get?_eq_some_iff _ _).mp kept).2 ▸ distinct there
    exact keys.map fun left right same => (Prod.mk.inj same).2
  · refine (List.pairwise_map.mp filled.distinct).imp fun apart => ?_
    intro place left right
    obtain ⟨_, _, rfl⟩ := List.mem_map.mp left
    obtain ⟨_, _, same⟩ := List.mem_map.mp right
    exact apart (congrArg Prod.fst same).symm

/-! ## Whole histories -/

/-- What a table holds is what a history of edits leaves in it. -/
structure Kept (history : List TableEdit) (table : SymbolTable) : Prop where
  filled : Filled table
  symbols : ∀ document, KeptAt history document (table.entries document)

theorem Kept.apply
    (kept : Kept history table)
    (edit : TableEdit) :
    Kept (history ++ [edit]) (edit.apply table) where
  filled := kept.filled.apply edit
  symbols := by
    intro document
    by_cases here : edit.document = document
    · subst here
      exact (kept.symbols edit.document).apply
    · rw [edit.entries_apply_of_ne table here]
      exact (kept.symbols document).elsewhere here

theorem kept_afterEdits (history : List TableEdit) :
    Kept history (SymbolTable.afterEdits history) := by
  induction history using List.reverseRecOn with
  | nil => exact ⟨filled_empty, keptAt_nil⟩
  | append_singleton history edit ih =>
      rw [SymbolTable.afterEdits, List.foldl_append]
      exact ih.apply edit

theorem KeptAt.map_key_values (kept : KeptAt history document symbols) :
    symbols.values.map Symbol.key = symbols.keys := by
  rw [values, keys, List.map_map]
  refine List.map_congr_left fun entry member => ?_
  exact kept.keyed entry.1 entry.2 ((kept.distinct.get?_eq_some_iff _ _).mpr member)

/-- A table lists what a history of edits leaves in its documents. -/
structure ListsInOrder (history : List TableEdit) (table : SymbolTable) : Prop where
  /-- A document lists the keys with a value, each of them once. -/
  live : ∀ document key, key ∈ (table.list document).map Symbol.key ↔
    (valueAfter history document key).isSome = true
  once : ∀ document, ((table.list document).map Symbol.key).Nodup
  /-- The keys stand in the order in which they became present. -/
  ordered : ∀ document,
    ((table.list document).map Symbol.key).Pairwise (LongerPresent history document)
  /-- Every key has its value. -/
  values : ∀ document, ∀ symbol ∈ table.list document,
    valueAfter history document symbol.key = some symbol
  /-- Look-up finds what is listed, and nothing else. -/
  lookup : ∀ document key symbol, table.lookup? document key = some symbol ↔
    symbol ∈ table.list document ∧ symbol.key = key
  /-- A document is kept exactly where it has symbols. -/
  container : ∀ document, table.hasDocument document = true ↔ table.list document ≠ []
  /-- The table counts the keys with a value in all documents. -/
  size : ∃ places : List (String × SymbolKey), places.Nodup ∧ places.length = table.size ∧
    ∀ document key, (document, key) ∈ places ↔
      (valueAfter history document key).isSome = true

/-- Whatever edits are made to a table, in whichever documents, it lists the keys that have a value
in the order in which they became present. -/
theorem SymbolTable.afterEdits_listsInOrder (history : List TableEdit) :
    ListsInOrder history (SymbolTable.afterEdits history) := by
  have kept := kept_afterEdits history
  have keys := fun document => (kept.symbols document).map_key_values
  constructor
  case live =>
    intro document key
    rw [SymbolTable.list, keys, ← contains_iff_mem_keys, OrderedMap.contains,
      (kept.symbols document).lookup]
  case once =>
    intro document
    rw [SymbolTable.list, keys]
    exact (kept.symbols document).distinct
  case ordered =>
    intro document
    rw [SymbolTable.list, keys]
    exact (kept.symbols document).ordered
  case values =>
    intro document symbol listed
    obtain ⟨key, found⟩ := ((kept.symbols document).distinct.mem_values_iff symbol).mp listed
    rw [(kept.symbols document).keyed key symbol found, ← (kept.symbols document).lookup]
    exact found
  case lookup =>
    intro document key symbol
    constructor
    · intro found
      exact ⟨mem_values_of_get?_eq_some found, (kept.symbols document).keyed key symbol found⟩
    · rintro ⟨listed, rfl⟩
      obtain ⟨key, found⟩ := ((kept.symbols document).distinct.mem_values_iff symbol).mp listed
      rw [(kept.symbols document).keyed key symbol found]
      exact found
  case container => exact kept.filled.hasDocument_iff
  case size =>
    refine ⟨_, kept.filled.nodup_places fun document => (kept.symbols document).distinct,
      SymbolTable.length_places _, ?_⟩
    intro document key
    rw [kept.filled.mem_places_iff, (kept.symbols document).lookup]

/-- A symbol that is declared again after it was removed goes to the end, and one that is declared
again while it is present does not. -/
example :
    ((SymbolTable.afterEdits
      [.declare "main" (.ofVariable "a" .number), .declare "main" (.ofVariable "b" .number),
        .declare "main" (.ofVariable "c" .number), .declare "main" (.ofVariable "b" .string),
        .remove "main" ⟨none, "a"⟩, .declare "main" (.ofVariable "a" .string)]).list "main").map
      Symbol.name = ["b", "c", "a"] := by
  decide

end LuauNodes
