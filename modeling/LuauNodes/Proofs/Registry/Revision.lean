import LuauNodes.Proofs.Registry.Announcement
import LuauNodes.Proofs.Registry.Slots
import LuauNodes.Proofs.Registry.Writes

/-!
# Revisions

What a request to change fields of a symbol comes to.  Every field of the symbol
is what was supplied for it, or else what it was; one value that cannot be read
turns the whole request down.  A symbol that is changed keeps its name, its owner
and its place, and nothing but the symbol is changed.
-/

namespace LuauNodes

open Record

/-! ## Fields -/

namespace Record

variable {α : Type} {name : String} {read : Reader α} {fields : Fields} {old new : α}

/-- A field is what was supplied for it, which can be read, or else what it was. -/
structure Takes (name : String) (read : Reader α) (fields : Fields) (old new : α) : Prop where
  kept : Json.entry? name fields = none → new = old
  supplied : ∀ value, Json.entry? name fields = some value → read value = .ok new

theorem takes_iff : Takes name read fields old new ↔
    optional (.same name) old read fields = .ok new := by
  cases found : Json.entry? name fields with
  | none =>
      rw [optional_same_of_absent found, Checked.ok.injEq]
      exact ⟨fun takes => (takes.kept found).symm,
        fun same => ⟨fun _ => same.symm, fun value there => by rw [found] at there; cases there⟩⟩
  | some value =>
      rw [optional_same_of_present found, Checked.within_eq_ok_iff]
      refine ⟨fun takes => takes.supplied value found, fun taken => ⟨?_, ?_⟩⟩
      · intro absent
        rw [found] at absent
        cases absent
      · intro other there
        rw [found, Option.some.injEq] at there
        exact there ▸ taken

/-- What a field is depends on nothing but what is supplied for it. -/
theorem Takes.congr
    {others : Fields}
    (takes : Takes name read fields old new)
    (same : Json.entry? name others = Json.entry? name fields) :
    Takes name read others old new :=
  ⟨same ▸ takes.kept, same ▸ takes.supplied⟩

/-- A field for which nothing is supplied stays what it is. -/
theorem takes_of_absent
    (absent : Json.entry? name fields = none)
    (read : Reader α)
    (value : α) :
    Takes name read fields value value :=
  ⟨fun _ => rfl, fun other there => by rw [absent] at there; cases there⟩

end Record

theorem Json.entry?_filter_self (dropped : String) (fields : List (String × Json)) :
    Json.entry? dropped (fields.filter fun field => field.1 != dropped) = none := by
  rw [Json.entry?_eq_none_iff]
  intro field member
  simpa using (List.mem_filter.mp member).2

theorem Json.entry?_filter_ne
    {name dropped : String}
    (apart : name ≠ dropped)
    (fields : List (String × Json)) :
    Json.entry? name (fields.filter fun field => field.1 != dropped) = Json.entry? name fields := by
  induction fields with
  | nil => rfl
  | cons field rest ih =>
      obtain ⟨key, value⟩ := field
      by_cases gone : key = dropped
      · subst gone
        rw [List.filter_cons_of_neg (by simp), ih, Json.entry?, if_neg (by simpa using apart.symm)]
      · rw [List.filter_cons_of_pos (by simpa using gone), Json.entry?, Json.entry?, ih]

/-! ## Symbols -/

namespace Signature

/-- A signature is what some fields make of another one. -/
structure RevisedBy (fields : Fields) (old new : Signature) : Prop where
  parameters : Takes "parameters" (list Parameter.read) fields old.parameters new.parameters
  returnType : Takes "return_type" LuauType.read fields old.returnType new.returnType
  nodeId : Takes "node_id" (nullable text) fields old.nodeId new.nodeId

theorem revisedBy_iff {fields : Fields} {old new : Signature} :
    old.RevisedBy fields new ↔ Symbol.readSignature old fields = .ok new := by
  simp only [Symbol.readSignature, Checked.seq_eq_ok_iff, Checked.map_eq_ok_iff]
  constructor
  · rintro ⟨parameters, returnType, nodeId⟩
    exact ⟨_, _, ⟨_, _, ⟨_, takes_iff.mp parameters, rfl⟩, takes_iff.mp returnType, rfl⟩,
      takes_iff.mp nodeId, rfl⟩
  · rintro ⟨_, _, ⟨_, _, ⟨_, parameters, rfl⟩, returnType, rfl⟩, nodeId, rfl⟩
    exact ⟨takes_iff.mpr parameters, takes_iff.mpr returnType, takes_iff.mpr nodeId⟩

end Signature

namespace Symbol

/-- A symbol is what some fields make of another one: its name, its owner and the kind of its owner
stay, and each of the other fields is what was supplied for it or what it was. -/
structure RevisedBy (fields : Fields) (old new : Symbol) : Prop where
  name : new.name = old.name
  scopeId : new.scopeId = old.scopeId
  scopeKind : new.scopeKind = old.scopeKind
  type : Takes "type" LuauType.read fields old.type new.type
  isConstant : Takes "is_constant" boolean fields old.isConstant new.isConstant
  initialValue : Takes "initial_value" (nullable text) fields old.initialValue new.initialValue
  description : Takes "description" (nullable text) fields old.description new.description
  signature : Option.Rel (Signature.RevisedBy fields) old.signature new.signature

/-- The names of the fields that a request may change. -/
def fieldNames (symbol : Symbol) : List String :=
  ["type", "is_constant", "initial_value", "description"] ++
    if symbol.isFunction then ["parameters", "return_type", "node_id"] else []

variable {fields others : Fields} {old new : Symbol}

theorem rel_revisedBy_iff {old new : Option Signature} :
    Option.Rel (Signature.RevisedBy fields) old new ↔
      (match old with
        | some signature => (readSignature signature fields).map some
        | none => .ok none) = .ok new := by
  cases old with
  | none =>
      constructor
      · rintro ⟨⟩
        rfl
      · intro same
        cases same
        exact .none
  | some signature =>
      constructor
      · rintro ⟨revised⟩
        exact (Checked.map_eq_ok_iff some _ _).mpr ⟨_, Signature.revisedBy_iff.mp revised, rfl⟩
      · intro read
        obtain ⟨signature, found, rfl⟩ := (Checked.map_eq_ok_iff some _ _).mp read
        exact .some (Signature.revisedBy_iff.mpr found)

/-- A symbol is read from some fields just where all of its parts are. -/
theorem readFields_eq_ok_iff {name : Checked String} :
    readFields name old fields = .ok new ↔
      name = .ok new.name ∧
        optional (.same "type") old.type LuauType.read fields = .ok new.type ∧
        optional (.same "scope_id") old.scopeId (nullable text) fields = .ok new.scopeId ∧
        optional (.same "scope_type") old.scopeKind ScopeKind.read fields = .ok new.scopeKind ∧
        optional (.same "is_constant") old.isConstant boolean fields = .ok new.isConstant ∧
        optional (.same "initial_value") old.initialValue (nullable text) fields =
          .ok new.initialValue ∧
        optional (.same "description") old.description (nullable text) fields =
          .ok new.description ∧
        Option.Rel (Signature.RevisedBy fields) old.signature new.signature := by
  simp only [readFields, Checked.seq_eq_ok_iff, Checked.map_eq_ok_iff, rel_revisedBy_iff]
  constructor
  · rintro ⟨_, _, ⟨_, _, ⟨_, _, ⟨_, _, ⟨_, _, ⟨_, _, ⟨_, _, ⟨_, named, rfl⟩, type, rfl⟩, owner,
      rfl⟩, kind, rfl⟩, constant, rfl⟩, initial, rfl⟩, description, rfl⟩, signature, rfl⟩
    exact ⟨named, type, owner, kind, constant, initial, description, signature⟩
  · rintro ⟨named, type, owner, kind, constant, initial, description, signature⟩
    exact ⟨_, _, ⟨_, _, ⟨_, _, ⟨_, _, ⟨_, _, ⟨_, _, ⟨_, _, ⟨_, named, rfl⟩, type, rfl⟩, owner, rfl⟩,
      kind, rfl⟩, constant, rfl⟩, initial, rfl⟩, description, rfl⟩, signature, rfl⟩

/-- What some fields make of a symbol depends on the changeable ones alone. -/
theorem RevisedBy.congr
    (revised : old.RevisedBy fields new)
    (same : ∀ name ∈ old.fieldNames, Json.entry? name others = Json.entry? name fields) :
    old.RevisedBy others new where
  name := revised.name
  scopeId := revised.scopeId
  scopeKind := revised.scopeKind
  type := revised.type.congr (same _ (by simp [fieldNames]))
  isConstant := revised.isConstant.congr (same _ (by simp [fieldNames]))
  initialValue := revised.initialValue.congr (same _ (by simp [fieldNames]))
  description := revised.description.congr (same _ (by simp [fieldNames]))
  signature := by
    have inside : ∀ name ∈ ["parameters", "return_type", "node_id"], old.isFunction = true →
        Json.entry? name others = Json.entry? name fields := by
      intro name member function
      refine same name ?_
      rw [fieldNames, if_pos function]
      exact List.mem_append_right _ member
    obtain ⟨_, _, _, _, _, _, _, signature⟩ := old
    obtain ⟨_, _, _, _, _, _, _, after⟩ := new
    cases revised.signature with
    | none => exact .none
    | some taken =>
        exact .some ⟨taken.parameters.congr (inside _ (by simp) rfl),
          taken.returnType.congr (inside _ (by simp) rfl),
          taken.nodeId.congr (inside _ (by simp) rfl)⟩

/-- Without changeable fields a symbol stays what it is. -/
theorem revisedBy_self
    (absent : ∀ name ∈ old.fieldNames, Json.entry? name fields = none) :
    old.RevisedBy fields old := by
  have bare : old.RevisedBy [] old := by
    refine ⟨rfl, rfl, rfl, takes_of_absent rfl _ _, takes_of_absent rfl _ _,
      takes_of_absent rfl _ _, takes_of_absent rfl _ _, ?_⟩
    cases old.signature with
    | none => exact .none
    | some signature =>
        exact .some ⟨takes_of_absent rfl _ _, takes_of_absent rfl _ _, takes_of_absent rfl _ _⟩
  exact bare.congr absent

/-- Changing fields of a symbol, but not the kind of its owner, comes to a symbol just if the
fields make one of it. -/
theorem merge_eq_ok_iff :
    old.merge (fields.filter fun field => field.1 != "scope_type") = .ok new ↔
      old.RevisedBy fields new := by
  let left := (fields.filter fun field => field.1 != "scope_type").filter fun field =>
    field.1 != "scope_id"
  have same : ∀ name ∈ old.fieldNames, Json.entry? name left = Json.entry? name fields := by
    intro name member
    have apart : name ≠ "scope_id" ∧ name ≠ "scope_type" := by
      constructor <;> rintro rfl <;> revert member <;> unfold fieldNames <;> split <;> decide
    rw [Json.entry?_filter_ne apart.1, Json.entry?_filter_ne apart.2]
  have ownerless : Json.entry? "scope_id" left = none := Json.entry?_filter_self _ _
  have kindless : Json.entry? "scope_type" left = none :=
    (Json.entry?_filter_ne (by decide) _).trans (Json.entry?_filter_self _ _)
  rw [merge, readFields_eq_ok_iff, optional_same_of_absent ownerless,
    optional_same_of_absent kindless]
  constructor
  · rintro ⟨named, type, owner, kind, constant, initial, description, signature⟩
    have revised : old.RevisedBy left new :=
      ⟨(Checked.ok.inj named).symm, (Checked.ok.inj owner).symm, (Checked.ok.inj kind).symm,
        takes_iff.mpr type, takes_iff.mpr constant, takes_iff.mpr initial,
        takes_iff.mpr description, signature⟩
    exact revised.congr fun name member => (same name member).symm
  · intro revised
    have taken := revised.congr same
    exact ⟨by rw [taken.name], takes_iff.mp taken.type, by rw [taken.scopeId],
      by rw [taken.scopeKind], takes_iff.mp taken.isConstant, takes_iff.mp taken.initialValue,
      takes_iff.mp taken.description, taken.signature⟩

/-- What some fields make of a symbol is one symbol. -/
theorem RevisedBy.unique
    {other : Symbol}
    (revised : old.RevisedBy fields new)
    (too : old.RevisedBy fields other) :
    new = other := by
  have same := (merge_eq_ok_iff.mpr revised).symm.trans (merge_eq_ok_iff.mpr too)
  exact Checked.ok.inj same

end Symbol

/-! ## Places -/

namespace OrderedMap

variable {κ α : Type} [DecidableEq κ] {map : OrderedMap κ α} {key : κ} {old : α}

theorem entries_insert_of_get?_eq_some (found : map.get? key = some old) (value : α) :
    ∃ earlier later, map.entries = earlier ++ (key, old) :: later ∧
      (map.insert key value).entries = earlier ++ (key, value) :: later := by
  obtain ⟨entries⟩ := map
  show ∃ earlier later, entries = _ ∧ put key value entries = _
  induction entries with
  | nil => cases found
  | cons entry rest ih =>
      obtain ⟨other, kept⟩ := entry
      by_cases here : other = key
      · subst here
        have same : kept = old := by simpa [get?, lookup] using found
        subst same
        exact ⟨[], rest, rfl, by rw [put, if_pos rfl]; rfl⟩
      · have later : lookup key rest = some old := by simpa [get?, lookup, here] using found
        obtain ⟨before, after, whole, written⟩ := ih later
        refine ⟨(other, kept) :: before, after, by rw [whole]; rfl, ?_⟩
        rw [put, if_neg here, written]
        rfl

/-- A value that is written at a key with a value takes the place of that one. -/
theorem values_insert_of_get?_eq_some (found : map.get? key = some old) (value : α) :
    ∃ earlier later, map.values = earlier ++ old :: later ∧
      (map.insert key value).values = earlier ++ value :: later := by
  obtain ⟨before, after, whole, written⟩ := entries_insert_of_get?_eq_some found value
  refine ⟨before.map (·.2), after.map (·.2), ?_, ?_⟩
  · rw [values, whole, List.map_append, List.map_cons]
  · rw [values, written, List.map_append, List.map_cons]

/-- Writing the value that a key has changes nothing. -/
theorem insert_of_get?_eq_some (found : map.get? key = some old) : map.insert key old = map := by
  obtain ⟨before, after, whole, written⟩ := entries_insert_of_get?_eq_some found old
  exact congrArg OrderedMap.mk (written.trans whole.symm)

end OrderedMap

/-! ## Registries -/

namespace SymbolTable

variable {table : SymbolTable} {document : String} {key : SymbolKey} {symbol : Symbol}

/-- Where a symbol is found the document is kept. -/
theorem get?_documents_of_lookup? (found : table.lookup? document key = some symbol) :
    table.documents.get? document = some (table.entries document) := by
  unfold lookup? at found
  cases kept : table.documents.get? document with
  | none =>
      rw [SymbolTable.entries, OrderedMap.getD, kept] at found
      cases found
  | some symbols => rw [SymbolTable.entries, OrderedMap.getD, kept]; rfl

/-- Writing at a key with a symbol keeps the documents. -/
theorem setEntries_insert_of_lookup?
    (found : table.lookup? document key = some symbol)
    (value : Symbol) :
    table.setEntries document ((table.entries document).insert key value) =
      ⟨table.documents.insert document ((table.entries document).insert key value)⟩ := by
  obtain ⟨before, after, -, written⟩ := OrderedMap.entries_insert_of_get?_eq_some found value
  refine if_neg ?_
  rw [OrderedMap.isEmpty, written]
  simp

theorem documentIds_insert_of_lookup?
    (found : table.lookup? document key = some symbol)
    (value : Symbol) :
    (table.setEntries document ((table.entries document).insert key value)).documentIds =
      table.documentIds := by
  have kept := get?_documents_of_lookup? found
  rw [setEntries_insert_of_lookup? found, documentIds, OrderedMap.keys_insert,
    if_pos (OrderedMap.mem_keys_of_get?_eq_some kept)]
  rfl

/-- Writing the symbol that a key has changes nothing. -/
theorem setEntries_insert_of_same (found : table.lookup? document key = some symbol) :
    table.setEntries document ((table.entries document).insert key symbol) = table := by
  rw [setEntries_insert_of_lookup? found, OrderedMap.insert_of_get?_eq_some found,
    OrderedMap.insert_of_get?_eq_some (get?_documents_of_lookup? found)]

end SymbolTable

namespace Registry

variable {registry : Registry} {slot : Slot} {fields : Fields} {old new : Symbol}

/-- The symbol that is kept at a slot. -/
def symbolAt? (registry : Registry) (slot : Slot) : Option Symbol :=
  (registry.table slot.space).lookup? slot.document slot.key

/-- The registry with a symbol written at a slot. -/
def writing (registry : Registry) (slot : Slot) (symbol : Symbol) : Registry :=
  registry.withSymbols slot.space slot.document
    (((registry.table slot.space).entries slot.document).insert slot.key symbol)

/-- In a registry one symbol is put in the place of another one, and nothing else is changed. -/
structure Replaces (registry after : Registry) (slot : Slot) (old new : Symbol) : Prop where
  /-- The symbol stands where the other one stood. -/
  listed : ∃ earlier later,
    (registry.table slot.space).list slot.document = earlier ++ old :: later ∧
      (after.table slot.space).list slot.document = earlier ++ new :: later
  /-- It is found where the other one was found. -/
  found : ∀ other, after.symbolAt? other =
    if slot = other then some new else registry.symbolAt? other
  /-- Other documents, and the other namespace, list what they listed. -/
  elsewhere : ∀ space document, (slot.space, slot.document) ≠ (space, document) →
    (after.table space).list document = (registry.table space).list document
  documents : ∀ space, (after.table space).documentIds = (registry.table space).documentIds
  scopes : after.scopes = registry.scopes

theorem symbolAt?_writing (registry : Registry) (slot other : Slot) (symbol : Symbol) :
    (registry.writing slot symbol).symbolAt? other =
      if slot = other then some symbol else registry.symbolAt? other := by
  rw [symbolAt?, writing, lookup?_withSymbols]
  obtain ⟨space, document, key⟩ := slot
  obtain ⟨otherSpace, otherDocument, otherKey⟩ := other
  by_cases here : space = otherSpace ∧ document = otherDocument
  · rw [if_pos here, OrderedMap.get?_insert]
    obtain ⟨rfl, rfl⟩ := here
    by_cases same : key = otherKey
    · rw [if_pos same, if_pos (same ▸ rfl)]
    · rw [if_neg same, if_neg fun equal => same (congrArg Slot.key equal)]
      rfl
  · rw [if_neg here, if_neg]
    · rfl
    · rintro ⟨⟩
      exact here ⟨rfl, rfl⟩

/-- Writing at a slot that holds a symbol replaces the symbol. -/
theorem replaces_writing (held : registry.symbolAt? slot = some old) (new : Symbol) :
    registry.Replaces (registry.writing slot new) slot old new where
  listed := by
    obtain ⟨earlier, later, before, after⟩ := OrderedMap.values_insert_of_get?_eq_some held new
    refine ⟨earlier, later, before, ?_⟩
    rw [writing, withSymbols, table_setTable, if_pos rfl, SymbolTable.list,
      SymbolTable.entries_setEntries, if_pos rfl]
    exact after
  found := fun other => symbolAt?_writing registry slot other new
  elsewhere := by
    intro space document apart
    rw [writing, withSymbols, table_setTable]
    split
    · rename_i here
      subst here
      rw [SymbolTable.list, SymbolTable.entries_setEntries,
        if_neg fun same => apart (congrArg _ same)]
      rfl
    · rfl
  documents := by
    intro space
    rw [writing, withSymbols, table_setTable]
    split
    · rename_i here
      rw [SymbolTable.documentIds_insert_of_lookup? held, here]
    · rfl
  scopes := scopes_setTable _ _ _

/-- Writing the symbol that a slot holds changes nothing. -/
theorem writing_of_held (held : registry.symbolAt? slot = some old) :
    registry.writing slot old = registry := by
  rw [writing, withSymbols, SymbolTable.setEntries_insert_of_same held, setTable_table]

/-! ## Requests -/

/-- How a request to change fields of the symbol at a slot ends: no symbol could be made, or the one
that the fields make is written and told of. -/
inductive EndsRevision
    (registry : Registry)
    (slot : Slot)
    (fields : Fields)
    (change : Change (Option Symbol)) :
    Prop where
  | refused
      (unread : ∀ old, registry.symbolAt? slot = some old → ∀ new, ¬old.RevisedBy fields new)
      (effect : change.effect = (registry, []))
      (result : change.result = none)
  | replaced
      {old new : Symbol}
      (held : registry.symbolAt? slot = some old)
      (revised : old.RevisedBy fields new)
      (effect : change.effect = (registry.writing slot new,
        [⟨slot.document, slot.space.eventKind, some slot.key.name, slot.key.scopeId⟩]))
      (result : change.result = some new)

theorem endsRevision_revise
    (registry : Registry)
    (space : Namespace)
    (document name : String)
    (scopeId : Option String)
    (fields : Fields) :
    registry.EndsRevision ⟨space, document, ⟨scopeId, name⟩⟩ fields
      (registry.revise space document name scopeId fields) := by
  unfold Registry.revise SymbolTable.revise
  cases held : (registry.table space).lookup? document ⟨scopeId, name⟩ with
  | none =>
      refine .refused ?_ rfl rfl
      intro old there
      rw [symbolAt?, held] at there
      cases there
  | some old =>
      dsimp only
      cases merged : old.merge (fields.filter fun field => field.1 != "scope_type") with
      | ok new => exact .replaced held (Symbol.merge_eq_ok_iff.mp merged) rfl rfl
      | bad faults =>
          refine .refused ?_ rfl rfl
          intro other there new revised
          rw [symbolAt?, held, Option.some.injEq] at there
          subst there
          rw [Symbol.merge_eq_ok_iff.mpr revised] at merged
          cases merged

/-- Of a symbol that is held, other fields make what the given ones make, if they are the same for
every changeable field. -/
theorem EndsRevision.congr
    {others : Fields}
    {change other : Change (Option Symbol)}
    (ends : registry.EndsRevision slot fields change)
    (too : registry.EndsRevision slot others other)
    (same : ∀ old, registry.symbolAt? slot = some old → ∀ name ∈ old.fieldNames,
      Json.entry? name others = Json.entry? name fields) :
    other.effect = change.effect ∧ other.result = change.result := by
  cases ends with
  | refused unread effect result =>
      cases too with
      | refused _ otherEffect otherResult =>
          exact ⟨otherEffect.trans effect.symm, otherResult.trans result.symm⟩
      | @replaced old new held revised =>
          have back := revised.congr fun name member => (same old held name member).symm
          exact (unread old held new back).elim
  | @replaced old new held revised effect result =>
      cases too with
      | refused unread => exact (unread old held new (revised.congr (same old held))).elim
      | @replaced former newer there taken otherEffect otherResult =>
          rw [held, Option.some.injEq] at there
          subst there
          have made := (revised.congr (same old held)).unique taken
          subst made
          exact ⟨otherEffect.trans effect.symm, otherResult.trans result.symm⟩

/-- What a request to change fields of the symbol at a slot is answered with. -/
structure AnswersRevision
    (registry : Registry)
    (slot : Slot)
    (fields : Fields)
    (change : Change (Option Symbol)) :
    Prop where
  /-- The request is met with the symbol that the fields make of the one that is held. -/
  met : ∀ new, change.result = some new ↔
    ∃ old, registry.symbolAt? slot = some old ∧ old.RevisedBy fields new
  /-- A request that is not met changes nothing, and nobody is told of anything. -/
  refused : change.result = none → change.registry = registry ∧ change.events = []
  /-- One that is met puts the new symbol in the place of the old one. -/
  replaced : ∀ old new, registry.symbolAt? slot = some old → change.result = some new →
    registry.Replaces change.registry slot old new ∧
      change.events = [⟨slot.document, slot.space.eventKind, some slot.key.name, slot.key.scopeId⟩]
  /-- Where the symbol is what it was, so is the registry. -/
  idle : change.result = registry.symbolAt? slot → change.registry = registry
  /-- Without changeable fields the symbol is what it was. -/
  bare : ∀ old, registry.symbolAt? slot = some old →
    (∀ name ∈ old.fieldNames, Json.entry? name fields = none) → change.result = some old
  /-- Fields that are not changeable are ignored. -/
  ignored : ∀ others, (∀ old, registry.symbolAt? slot = some old → ∀ name ∈ old.fieldNames,
      Json.entry? name others = Json.entry? name fields) →
    let other := registry.revise slot.space slot.document slot.key.name slot.key.scopeId others
    other.effect = change.effect ∧ other.result = change.result

/-- Whatever the fields are, a request to change a symbol changes all that is supplied or nothing,
and of the registry nothing but the symbol. -/
theorem revise_exact
    (registry : Registry)
    (space : Namespace)
    (document name : String)
    (scopeId : Option String)
    (fields : Fields) :
    registry.AnswersRevision ⟨space, document, ⟨scopeId, name⟩⟩ fields
      (registry.revise space document name scopeId fields) := by
  have ends := registry.endsRevision_revise space document name scopeId fields
  have ignored := fun others => ends.congr
    (registry.endsRevision_revise space document name scopeId others)
  generalize registry.revise space document name scopeId fields = change at ends ignored ⊢
  obtain ⟨after, result, events, notices⟩ := change
  cases ends with
  | refused unread effect answer =>
      cases effect
      cases answer
      constructor
      case met =>
        intro new
        refine ⟨fun met => (Option.some_ne_none new met.symm).elim, ?_⟩
        rintro ⟨old, held, revised⟩
        exact (unread old held new revised).elim
      case refused => exact fun _ => ⟨rfl, rfl⟩
      case replaced => exact fun _ new _ met => (Option.some_ne_none new met.symm).elim
      case idle => exact fun _ => rfl
      case bare =>
        intro old held absent
        exact (unread old held old (Symbol.revisedBy_self absent)).elim
      case ignored => exact ignored
  | @replaced old new held revised effect answer =>
      cases effect
      cases answer
      have only : ∀ other, registry.symbolAt? _ = some other → other = old :=
        fun other there => Option.some.inj (there.symm.trans held)
      constructor
      case met =>
        intro other
        rw [Option.some.injEq]
        refine ⟨fun same => ⟨old, held, same ▸ revised⟩, ?_⟩
        rintro ⟨former, there, taken⟩
        exact (only former there ▸ revised).unique taken
      case refused => exact fun none => (Option.some_ne_none new none).elim
      case replaced =>
        rintro former other there ⟨⟩
        rw [only former there]
        exact ⟨replaces_writing held new, rfl⟩
      case idle => exact fun same => writing_of_held same.symm
      case bare =>
        intro former there absent
        rw [only former there] at absent ⊢
        exact congrArg some (revised.unique (Symbol.revisedBy_self absent))
      case ignored => exact ignored

/-- A function with a parameter is described and kept in a document. -/
example :
    let declared := ((∅ : Registry).declare .functions "main"
      (.ofFunction "area" ⟨[⟨"radius", .number⟩], .number, none⟩)).registry
    let described := declared.revise .functions "main" "area" none
      [("description", .text "of a disc"), ("scope_type", .text "loop"), ("colour", .null)]
    let refused := declared.revise .functions "main" "area" none
      [("description", .text "of a disc"), ("return_type", .text "Number")]
    described.result = some { Symbol.ofFunction "area" ⟨[⟨"radius", .number⟩], .number, none⟩ with
        description := some "of a disc" } ∧
      refused.result = none ∧ refused.events = [] := by
  decide +kernel

end Registry

end LuauNodes
