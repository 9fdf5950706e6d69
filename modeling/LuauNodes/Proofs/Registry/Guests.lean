import LuauNodes.Proofs.Registry.Writes

/-!
# Guests

Scopes that come and go in a registry that others have laid out.  A scope is a
resident if it is stored at home, which is the registry of some earlier time, and
a guest otherwise.  The residue of a registry is what remains once the guests and
all that is theirs are left out.  No operation on a guest shows in the residue,
whatever scope the guest is under; and a registry without guests is its own
residue.
-/

namespace LuauNodes

/-! ## Collecting entries -/

namespace OrderedMap

variable {κ α β : Type}

/-- The entries for which a function has a value, with that value. -/
def collect (f : κ → α → Option β) (map : OrderedMap κ α) : OrderedMap κ β :=
  ⟨map.entries.filterMap fun entry => (f entry.1 entry.2).map fun value => (entry.1, value)⟩

variable [DecidableEq κ] {f : κ → α → Option β} {map : OrderedMap κ α}

theorem filterMap_put
    {entries : List (κ × α)}
    {key : κ}
    {value : α}
    (same : f key value = (lookup key entries).bind (f key)) :
    (put key value entries).filterMap (fun entry =>
        (f entry.1 entry.2).map fun value => (entry.1, value)) =
      entries.filterMap fun entry =>
        (f entry.1 entry.2).map fun value => (entry.1, value) := by
  induction entries with
  | nil =>
      have dropped : f key value = none := same
      simp [put, dropped]
  | cons entry rest ih =>
      by_cases here : entry.1 = key
      · rw [lookup, if_pos here, Option.bind_some] at same
        rw [put, if_pos here, List.filterMap_cons, List.filterMap_cons]
        dsimp only
        rw [same, here]
      · rw [lookup, if_neg here] at same
        rw [put, if_neg here, List.filterMap_cons, List.filterMap_cons, ih same]

/-- A value that is collected as the one before was does not show. -/
theorem collect_insert
    {key : κ}
    {value : α}
    (same : f key value = (map.get? key).bind (f key)) :
    (map.insert key value).collect f = map.collect f :=
  congrArg OrderedMap.mk (filterMap_put same)

/-- An entry that is not collected may be erased. -/
theorem collect_erase
    {key : κ}
    (dropped : ∀ value, (key, value) ∈ map.entries → f key value = none) :
    (map.erase key).collect f = map.collect f := by
  refine congrArg OrderedMap.mk ?_
  rw [erase, List.filterMap_filter]
  refine List.filterMap_congr fun entry member => ?_
  by_cases here : entry.1 = key
  · have gone := dropped entry.2 (here ▸ member)
    simp [here, gone]
  · simp [here]

theorem collect_modify
    {key : κ}
    {g : α → α}
    (same : ∀ value, f key (g value) = f key value) :
    (map.modify key g).collect f = map.collect f := by
  refine congrArg OrderedMap.mk ?_
  rw [modify, List.filterMap_map]
  refine List.filterMap_congr fun entry _ => ?_
  by_cases here : entry.1 = key
  · simp [here, same]
  · simp [here]

theorem collect_foldl_erase
    {keys : List κ}
    (dropped : ∀ key ∈ keys, ∀ value, f key value = none) :
    (keys.foldl erase map).collect f = map.collect f := by
  induction keys generalizing map with
  | nil => rfl
  | cons key rest ih =>
      rw [List.foldl_cons, ih fun other among => dropped other (List.mem_cons_of_mem key among)]
      exact collect_erase fun value _ => dropped key List.mem_cons_self value

omit [DecidableEq κ] in
theorem collect_eq_self
    {f : κ → α → Option α}
    (all : ∀ entry ∈ map.entries, f entry.1 entry.2 = some entry.2) :
    map.collect f = map := by
  refine congrArg OrderedMap.mk ?_
  calc
    _ = map.entries.filterMap some :=
      List.filterMap_congr fun entry member => by rw [all entry member, Option.map_some]
    _ = map.entries := List.filterMap_some

/-- A write that puts an empty value out of the way does not show, if the values before and after
are collected alike. -/
theorem collect_write
    {isEmpty : α → Bool}
    {key : κ}
    {nothing value : α}
    (distinct : map.Distinct)
    (only : isEmpty value = true → value = nothing)
    (bare : f key nothing = none)
    (same : f key value = f key (map.getD key nothing)) :
    (if isEmpty value then map.erase key else map.insert key value).collect f = map.collect f := by
  have before : f key (map.getD key nothing) = (map.get? key).bind (f key) := by
    rw [getD]
    cases map.get? key with
    | none => rw [Option.getD_none, bare, Option.bind_none]
    | some former => rw [Option.getD_some, Option.bind_some]
  split
  · rename_i empty
    rw [only empty, bare, before] at same
    refine collect_erase fun former member => ?_
    rw [(distinct.get?_eq_some_iff key former).mpr member, Option.bind_some] at same
    exact same.symm
  · exact collect_insert (same.trans before)

theorem get?_collect
    (distinct : map.Distinct)
    (key : κ) :
    (map.collect f).get? key = (map.get? key).bind (f key) := by
  obtain ⟨entries⟩ := map
  unfold collect get?
  dsimp only
  induction entries with
  | nil => rfl
  | cons entry rest ih =>
      obtain ⟨absent, distinctRest⟩ := List.nodup_cons.mp distinct
      have later := ih distinctRest
      rw [List.filterMap_cons, lookup]
      cases value : f entry.1 entry.2 with
      | none =>
          rw [Option.map_none]
          dsimp only
          rw [later]
          split
          · rename_i here
            have missing : lookup key rest = none := by
              rw [← Option.not_isSome_iff_eq_none, lookup_isSome_iff]
              exact here ▸ absent
            rw [missing, Option.bind_none, Option.bind_some, ← here, value]
          · rfl
      | some kept =>
          rw [Option.map_some]
          dsimp only
          rw [lookup]
          split
          · rename_i here
            rw [Option.bind_some, ← here, value]
          · exact later

end OrderedMap

/-! ## Residues -/

/-- The names of a set that are kept. -/
def NameSet.keeping (keep : String → Bool) (set : NameSet) : NameSet := ⟨set.names.filter keep⟩

theorem NameSet.keeping_insert
    {keep : String → Bool}
    {name : String}
    (dropped : keep name = false)
    (set : NameSet) :
    (set.insert name).keeping keep = set.keeping keep := by
  have filtered : ∀ names : List String, (insertName name names).filter keep =
      names.filter keep := by
    intro names
    induction names with
    | nil => simp [insertName, dropped]
    | cons first rest ih =>
        unfold insertName
        split
        · rw [List.filter_cons, if_neg (by simp [dropped])]
        · split
          · rfl
          · rw [List.filter_cons, List.filter_cons, ih]
  exact congrArg NameSet.mk (filtered set.names)

theorem NameSet.keeping_erase
    {keep : String → Bool}
    {name : String}
    (dropped : keep name = false)
    (set : NameSet) :
    (set.erase name).keeping keep = set.keeping keep := by
  refine congrArg NameSet.mk ?_
  rw [NameSet.erase, List.filter_filter]
  refine List.filter_congr fun other _ => ?_
  by_cases here : other = name
  · simp [here, dropped]
  · simp [here]

/-- A scope as the residents see it. -/
def Scope.among (keep : String → Bool) (scope : Scope) : Scope :=
  { scope with childIds := scope.childIds.keeping keep }

/-- A scope that is kept, as the residents see it. -/
def residentScope? (keep : String → Bool) (id : String) (scope : Scope) : Option Scope :=
  if keep id then some (scope.among keep) else none

/-- A symbol that is global, or in a scope that is kept. -/
def residentSymbol? (keep : String → Bool) (key : SymbolKey) (symbol : Symbol) : Option Symbol :=
  if key.scopeId.all keep then some symbol else none

/-- The active scopes that are kept, if there are any. -/
def residentStack? (keep : String → Bool) (stack : List String) : Option (List String) :=
  let kept := stack.filter keep
  if kept.isEmpty then none else some kept

/-- What is kept of a document, if there is anything. -/
def OrderedMap.inhabited? {κ α : Type} (map : OrderedMap κ α) : Option (OrderedMap κ α) :=
  if map.isEmpty then none else some map

namespace Registry

open OrderedMap

/-- At home a scope is stored. -/
def houses (home : Registry) (document id : String) : Bool := home.scopes.has document (some id)

/-- What the residents have of the symbols of a namespace. -/
def residentTable (home : Registry) (table : SymbolTable) : SymbolTable :=
  ⟨table.documents.collect fun document symbols =>
    (symbols.collect (residentSymbol? (home.houses document))).inhabited?⟩

/-- What the residents have of the scopes. -/
def residentTree (home : Registry) (tree : ScopeTree) : ScopeTree where
  scopes := tree.scopes.collect fun document scopes =>
    (scopes.collect (residentScope? (home.houses document))).inhabited?
  active := tree.active.collect fun document stack => residentStack? (home.houses document) stack

/-- What is left of a registry without the guests. -/
def residue (home registry : Registry) : Registry :=
  ⟨home.residentTable registry.vars, home.residentTable registry.functions,
    home.residentTree registry.scopes⟩

variable {home view registry : Registry}

theorem residentTable_setEntries
    {table : SymbolTable}
    (distinct : table.documents.Distinct)
    {document : String}
    {symbols : SymbolEntries}
    (same : symbols.collect (residentSymbol? (home.houses document)) =
      (table.entries document).collect (residentSymbol? (home.houses document))) :
    home.residentTable (table.setEntries document symbols) = home.residentTable table := by
  refine congrArg SymbolTable.mk (Eq.trans ?_ (collect_write distinct
    (fun bare : symbols.isEmpty = true => eq_empty_of_isEmpty bare) rfl (congrArg inhabited? same)))
  rw [SymbolTable.setEntries]
  split <;> rfl

theorem residentTree_setEntries
    {tree : ScopeTree}
    (distinct : tree.scopes.Distinct)
    {document : String}
    {scopes : ScopeEntries}
    (same : scopes.collect (residentScope? (home.houses document)) =
      (tree.entries document).collect (residentScope? (home.houses document))) :
    home.residentTree (tree.setEntries document scopes) = home.residentTree tree := by
  rw [residentTree, ScopeTree.active_setEntries]
  refine congrArg₂ ScopeTree.mk (Eq.trans ?_ (collect_write distinct
    (fun bare : scopes.isEmpty = true => eq_empty_of_isEmpty bare) rfl (congrArg inhabited? same)))
    rfl
  rw [ScopeTree.setEntries]
  split <;> rfl

theorem residentTree_setStack
    {tree : ScopeTree}
    (distinct : tree.active.Distinct)
    {document : String}
    {stack : List String}
    (same : stack.filter (home.houses document) =
      (tree.stack document).filter (home.houses document)) :
    home.residentTree (tree.setStack document stack) = home.residentTree tree := by
  have scopes : (tree.setStack document stack).scopes = tree.scopes := by
    unfold ScopeTree.setStack
    split <;> rfl
  have sameToo : residentStack? (home.houses document) stack =
      residentStack? (home.houses document) (tree.active.getD document []) := by
    have sameHere : stack.filter (home.houses document) =
        (tree.active.getD document []).filter (home.houses document) := same
    rw [residentStack?, residentStack?, sameHere]
  rw [residentTree, scopes]
  refine congrArg₂ ScopeTree.mk rfl (Eq.trans ?_ (collect_write distinct
    (fun bare : stack.isEmpty = true => List.isEmpty_iff.mp bare) rfl sameToo))
  rw [ScopeTree.setStack]
  split <;> rfl

/-- A registry in which no document is listed twice has a certain residue. -/
structure Shows (home view registry : Registry) : Prop where
  once : registry.ListsOnce
  residue : home.residue registry = view

theorem Shows.setTable
    (shows : Shows home view registry)
    (space : Namespace)
    {document : String}
    {symbols : SymbolEntries}
    (same : symbols.collect (residentSymbol? (home.houses document)) =
      ((registry.table space).entries document).collect
        (residentSymbol? (home.houses document))) :
    Shows home view
      (registry.setTable space ((registry.table space).setEntries document symbols)) where
  once := keptByWrites_listsOnce.table registry space document symbols shows.once
  residue := by
    rw [← shows.residue]
    have unseen := residentTable_setEntries (shows.once.table space) same
    cases space with
    | vars => exact congrArg (fun table => Registry.mk table _ _) unseen
    | functions => exact congrArg (fun table => Registry.mk _ table _) unseen

theorem Shows.setScopes
    (shows : Shows home view registry)
    {document : String}
    {scopes : ScopeEntries}
    (same : scopes.collect (residentScope? (home.houses document)) =
      (registry.scopes.entries document).collect (residentScope? (home.houses document))) :
    Shows home view { registry with scopes := registry.scopes.setEntries document scopes } where
  once := keptByWrites_listsOnce.scopes registry document scopes shows.once
  residue := by
    rw [← shows.residue]
    exact congrArg (Registry.mk _ _) (residentTree_setEntries shows.once.scopes same)

theorem Shows.setStack
    (shows : Shows home view registry)
    {document : String}
    {stack : List String}
    (same : stack.filter (home.houses document) =
      (registry.scopes.stack document).filter (home.houses document)) :
    Shows home view { registry with scopes := registry.scopes.setStack document stack } where
  once := keptByWrites_listsOnce.active registry document stack shows.once
  residue := by
    rw [← shows.residue]
    exact congrArg (Registry.mk _ _) (residentTree_setStack shows.once.active same)

/-! ## Operations on guests -/

variable {document id : String}

theorem residentScope?_of_guest
    {keep : String → Bool}
    (guest : keep id = false)
    (scope : Scope) :
    residentScope? keep id scope = none := by
  rw [residentScope?, guest, if_neg Bool.false_ne_true]

theorem residentSymbol?_of_guest
    {keep : String → Bool}
    (guest : keep id = false)
    {key : SymbolKey}
    (inside : key.scopeId = some id)
    (symbol : Symbol) :
    residentSymbol? keep key symbol = none := by
  rw [residentSymbol?, inside, Option.all_some, guest, if_neg Bool.false_ne_true]

/-- A symbol that a guest owns does not show. -/
theorem collect_insert_of_guest
    {keep : String → Bool}
    (guest : keep id = false)
    (symbols : SymbolEntries)
    {key : SymbolKey}
    (inside : key.scopeId = some id)
    (symbol : Symbol) :
    (symbols.insert key symbol).collect (residentSymbol? keep) =
      symbols.collect (residentSymbol? keep) := by
  refine collect_insert ?_
  rw [residentSymbol?_of_guest guest inside]
  cases symbols.get? key with
  | none => rfl
  | some former => rw [Option.bind_some, residentSymbol?_of_guest guest inside]

/-- A guest that is added to the children of a scope does not show. -/
theorem collect_addChild
    {keep : String → Bool}
    (guest : keep id = false)
    (scopes : ScopeEntries)
    (parentId : Option String) :
    (ScopeTree.addChild scopes parentId id).collect (residentScope? keep) =
      scopes.collect (residentScope? keep) := by
  cases parentId with
  | none => rfl
  | some parent =>
      refine collect_modify fun scope => ?_
      rw [residentScope?, residentScope?, Scope.among, Scope.among]
      dsimp only
      rw [NameSet.keeping_insert guest]

theorem collect_dropChild
    {keep : String → Bool}
    (guest : keep id = false)
    (scopes : ScopeEntries)
    (parentId : Option String) :
    (ScopeTree.dropChild scopes parentId id).collect (residentScope? keep) =
      scopes.collect (residentScope? keep) := by
  cases parentId with
  | none => rfl
  | some parent =>
      refine collect_modify fun scope => ?_
      rw [residentScope?, residentScope?, Scope.among, Scope.among]
      dsimp only
      rw [NameSet.keeping_erase guest]

theorem filter_stack_of_guest
    {keep : String → Bool}
    (guest : keep id = false)
    (stack : List String) :
    (stack.filter (· ≠ id)).filter keep = stack.filter keep := by
  rw [List.filter_filter]
  refine List.filter_congr fun other _ => ?_
  by_cases here : other = id
  · simp [here, guest]
  · simp [here]

/-- The names that are declared in a guest do not show. -/
theorem Shows.syncMembers
    (shows : Shows home view registry)
    (guest : home.houses document id = false)
    (keyed : ∀ scope, (registry.scopes.entries document).get? id = some scope → scope.id = id) :
    Shows home view (registry.syncMembers document (some id)) := by
  unfold Registry.syncMembers ScopeTree.setMembers
  split
  · exact shows
  · rename_i scope found
    refine shows.setScopes ?_
    rw [keyed scope found]
    exact collect_modify fun held => by
      rw [residentScope?_of_guest guest, residentScope?_of_guest guest]

theorem Shows.declare
    (shows : Shows home view registry)
    (consistent : registry.ConsistentAt document [])
    (guest : home.houses document id = false)
    (space : Namespace)
    {symbol : Symbol}
    (inside : symbol.scopeId = some id) :
    Shows home view (registry.declare space document symbol).registry := by
  unfold Registry.declare
  split
  · exact shows
  · split
    · exact shows
    · dsimp only
      rw [inside]
      refine Shows.syncMembers (shows.setTable space ?_) guest ?_
      · exact collect_insert_of_guest guest _ rfl _
      · rw [scopes_setTable]
        exact fun scope found => (consistent.forest.proper id scope found).keyed

theorem Shows.remove
    (shows : Shows home view registry)
    (consistent : registry.ConsistentAt document [])
    (guest : home.houses document id = false)
    (space : Namespace)
    (name : String) :
    Shows home view (registry.remove space document name (some id)).registry := by
  unfold Registry.remove
  dsimp only
  split
  · exact shows
  · refine Shows.syncMembers (shows.setTable space ?_) guest ?_
    · exact collect_erase fun symbol _ => residentSymbol?_of_guest guest rfl symbol
    · rw [scopes_setTable]
      exact fun scope found => (consistent.forest.proper id scope found).keyed

theorem Shows.enterScope
    (shows : Shows home view registry)
    (guest : home.houses document id = false) :
    Shows home view (registry.enterScope document (some id)).registry := by
  unfold Registry.enterScope
  split
  · rename_i inner _ same _
    cases same
    refine shows.setStack ?_
    rw [List.filter_append, filter_stack_of_guest guest, List.filter_singleton, guest]
    exact List.append_nil _
  · exact shows

theorem Shows.exitScope
    (shows : Shows home view registry)
    (guest : home.houses document id = false) :
    Shows home view (registry.exitScope document id).registry := by
  unfold Registry.exitScope
  split
  · exact shows.setStack (filter_stack_of_guest guest _)
  · exact shows

theorem keyed_dropChild
    {scopes : ScopeEntries}
    (keyed : scopes.Everywhere fun id scope => scope.id = id)
    (parentId : Option String)
    (childId : String) :
    (ScopeTree.dropChild scopes parentId childId).Everywhere fun id scope => scope.id = id := by
  cases parentId with
  | none => exact keyed
  | some parent => exact keyed.modify fun _ same => same

theorem keyed_addChild
    {scopes : ScopeEntries}
    (keyed : scopes.Everywhere fun id scope => scope.id = id)
    (parentId : Option String)
    (childId : String) :
    (ScopeTree.addChild scopes parentId childId).Everywhere fun id scope => scope.id = id := by
  cases parentId with
  | none => exact keyed
  | some parent => exact keyed.modify fun _ same => same

/-- The scopes of a document are replaced and the names declared in a guest are brought up to
date. -/
theorem Shows.settleGuest
    (shows : Shows home view registry)
    (guest : home.houses document id = false)
    {scopes : ScopeEntries}
    (same : scopes.collect (residentScope? (home.houses document)) =
      (registry.scopes.entries document).collect (residentScope? (home.houses document)))
    (keyed : scopes.Everywhere fun id scope => scope.id = id) :
    Shows home view
      (({ registry with scopes := registry.scopes.setEntries document scopes } :
        Registry).syncMembers document (some id)) := by
  refine Shows.syncMembers (shows.setScopes same) guest fun scope found => keyed id scope ?_
  rw [← found]
  exact congrArg (OrderedMap.get? · id)
    ((registry.scopes.entries_setEntries document document scopes).trans (if_pos rfl)).symm

/-- A guest may be created or moved under any scope. -/
theorem Shows.createScope
    (shows : Shows home view registry)
    (consistent : registry.ConsistentAt document [])
    {scope : Scope}
    (guest : home.houses document scope.id = false)
    {change : Change (Option Scope)}
    (created : registry.createScope document scope = .ok change) :
    Shows home view change.registry := by
  have keyed : (registry.scopes.entries document).Everywhere fun id scope => scope.id = id :=
    fun id held found => (consistent.forest.proper id held found).keyed
  unfold Registry.createScope ScopeTree.create at created
  split_ifs at created
  cases refused : registry.scopes.refusal? document scope with
  | error fault => simp [refused] at created
  | ok refusal =>
      cases refusal with
      | some reason =>
          simp only [refused] at created
          cases created
          exact shows
      | none =>
          cases found : registry.scopes.get? document (some scope.id) with
          | none =>
              simp only [refused, found] at created
              cases created
              refine shows.settleGuest guest ?_ (keyed_addChild ?_ _ _)
              · rw [collect_addChild guest]
                refine collect_insert ?_
                have absent : (registry.scopes.entries document).get? scope.id = none := found
                rw [residentScope?_of_guest guest, absent, Option.bind_none]
              · exact keyed.insert rfl
          | some stored =>
              simp only [refused, found] at created
              cases created
              have id_eq : stored.id = scope.id := keyed scope.id stored found
              rw [ScopeTree.move, id_eq]
              refine shows.settleGuest guest ?_ (keyed_addChild ?_ _ _)
              · rw [collect_addChild guest]
                refine (collect_modify fun held => ?_).trans (collect_dropChild guest _ _)
                rw [residentScope?_of_guest guest, residentScope?_of_guest guest]
              · exact (keyed_dropChild keyed stored.parentId scope.id).modify fun _ same => same

theorem Shows.removeEach
    (shows : Shows home view registry)
    (guest : home.houses document id = false)
    (space : Namespace)
    {keys : List SymbolKey}
    (inside : ∀ key ∈ keys, key.scopeId = some id) :
    Shows home view
      (registry.setTable space ((registry.table space).removeEach document keys).2) := by
  induction keys generalizing registry with
  | nil =>
      rw [SymbolTable.removeEach, setTable_table]
      exact shows
  | cons key rest ih =>
      have first : Shows home view (registry.setTable space
          ((registry.table space).setEntries document
            (((registry.table space).entries document).erase key))) :=
        shows.setTable space (collect_erase fun symbol _ =>
          residentSymbol?_of_guest guest (inside key List.mem_cons_self) symbol)
      have later := ih first fun other among => inside other (List.mem_cons_of_mem key among)
      rw [table_setTable, if_pos rfl, setTable_setTable] at later
      exact later

theorem Shows.dropMembers
    (shows : Shows home view registry)
    (guest : home.houses document id = false)
    (space : Namespace) :
    Shows home view (Registry.dropMembers space document id registry).registry := by
  refine shows.removeEach guest space ?_
  intro key among
  obtain ⟨symbol, listed, rfl⟩ := List.mem_map.mp among
  exact beq_iff_eq.mp (List.mem_filter.mp listed).2

theorem Shows.foldl_dropOwned
    {change : Change (List String)}
    (shows : Shows home view change.registry)
    {removed : List String}
    (guests : ∀ id ∈ removed, home.houses document id = false) :
    Shows home view (removed.foldl (dropOwned document) change).registry := by
  induction removed generalizing change with
  | nil => exact shows
  | cons id rest ih =>
      have guest := guests id List.mem_cons_self
      exact ih ((shows.dropMembers guest .vars).dropMembers guest .functions)
        fun other among => guests other (List.mem_cons_of_mem id among)

theorem Shows.foldl_leave
    (shows : Shows home view registry)
    {removed : List String}
    (guests : ∀ id ∈ removed, home.houses document id = false) :
    Shows home view { registry with
      scopes := removed.foldl (fun rest id => rest.leave document id) registry.scopes } := by
  induction removed generalizing registry with
  | nil => exact shows
  | cons id rest ih =>
      exact ih (shows.setStack (filter_stack_of_guest (guests id List.mem_cons_self) _))
        fun other among => guests other (List.mem_cons_of_mem id among)

/-- A scope may be destroyed if nothing but guests goes with it. -/
theorem Shows.destroyScope
    (shows : Shows home view registry)
    (guests : ∀ scope, registry.scopes.get? document (some id) = some scope →
      ∀ other ∈ registry.scopes.doomed document id, home.houses document other = false) :
    Shows home view (registry.destroyScope document id).registry := by
  cases found : registry.scopes.get? document (some id) with
  | none =>
      rw [destroyScope_of_missing found]
      exact shows
  | some scope =>
      have gone := guests scope found
      have guest := gone id (List.mem_append_right _ List.mem_cons_self)
      rw [destroyScope_eq found]
      refine Shows.foldl_dropOwned ?_ gone
      show Shows home view { registry with scopes := (registry.scopes.destroy document id).2 }
      rw [ScopeTree.destroy, found]
      refine Shows.foldl_leave (shows.setScopes ?_) gone
      refine (collect_foldl_erase fun other among => ?_).trans (collect_dropChild guest _ _)
      exact residentScope?_of_guest (gone other among)

/-! ## What lies below a guest -/

theorem entries_residentTree
    {tree : ScopeTree}
    (distinct : tree.scopes.Distinct)
    (document : String) :
    (home.residentTree tree).entries document =
      (tree.entries document).collect (residentScope? (home.houses document)) := by
  rw [ScopeTree.entries, residentTree, getD, get?_collect distinct, ScopeTree.entries, getD]
  cases tree.scopes.get? document with
  | none => rfl
  | some scopes =>
      rw [Option.bind_some, Option.getD_some, inhabited?]
      split
      · rename_i bare
        rw [eq_empty_of_isEmpty bare]
        rfl
      · rfl

/-- While the residents are as at home, the parent of a resident is one. -/
theorem Shows.houses_parent
    (shows : Shows home home registry)
    (atHome : home.Reachable)
    (reachable : registry.Reachable)
    {parent : String}
    (resident : home.houses document id = true)
    (inside : ScopeTree.parentOf? (registry.scopes.entries document) id = some (some parent)) :
    home.houses document parent = true := by
  have forest := (reachable.consistent document).forest
  have entries : home.scopes.entries document =
      (registry.scopes.entries document).collect (residentScope? (home.houses document)) := by
    rw [← entries_residentTree shows.once.scopes]
    exact congrArg (fun registry : Registry => registry.scopes.entries document)
      shows.residue.symm
  obtain ⟨scope, found, outer⟩ := (ScopeTree.parentOf?_eq_some_iff _ _ _).mp inside
  have insideHome : ScopeTree.parentOf? (home.scopes.entries document) id = some (some parent) := by
    rw [ScopeTree.parentOf?, entries, get?_collect forest.distinct, found, Option.bind_some,
      residentScope?, if_pos resident, Option.map_some]
    exact congrArg some outer
  exact (ScopeTree.has_some_eq_true_iff _ _ _).mpr
    ((atHome.consistent document).forest.parent_stored insideHome)

/-- With a guest go nothing but guests. -/
theorem Shows.doomed_guests
    (shows : Shows home home registry)
    (atHome : home.Reachable)
    (reachable : registry.Reachable)
    (guest : home.houses document id = false)
    {scope : Scope}
    (stored : registry.scopes.get? document (some id) = some scope)
    {other : String}
    (gone : other ∈ registry.scopes.doomed document id) :
    home.houses document other = false := by
  obtain ⟨outer, chain, around⟩ :=
    (ScopeTree.mem_doomed_iff_chain (reachable.consistent document).forest stored other).mp gone
  rw [← Bool.not_eq_true]
  intro resident
  -- From a resident outwards there are residents only.
  have residents : ∀ {other outer}, ScopeTree.ParentChain (registry.scopes.entries document) other
      outer → home.houses document other = true →
      ∀ member ∈ other :: outer, home.houses document member = true := by
    intro other outer chain
    induction chain with
    | top _ =>
        intro resident member among
        rwa [List.mem_singleton.mp among]
    | under inside _ ih =>
        intro resident member among
        rcases List.mem_cons.mp among with rfl | further
        · exact resident
        · exact ih (shows.houses_parent atHome reachable resident inside) member further
  rw [residents chain resident id around] at guest
  cases guest

/-! ## Registries without guests -/

/-- Every scope that is stored is a resident. -/
def Guestless (home registry : Registry) : Prop :=
  ∀ document id, registry.scopes.has document (some id) = true → home.houses document id = true

theorem Owned.collect_eq_self
    {scopes : ScopeEntries}
    {symbols : SymbolEntries}
    (owned : Owned scopes symbols)
    {keep : String → Bool}
    (housed : ∀ id scope, scopes.get? id = some scope → keep id = true) :
    symbols.collect (residentSymbol? keep) = symbols := by
  refine OrderedMap.collect_eq_self fun entry among => ?_
  have placed := owned.placed entry.1 entry.2
    ((owned.distinct.get?_eq_some_iff entry.1 entry.2).mpr among)
  have kept : entry.1.scopeId.all keep = true := by
    cases inside : entry.1.scopeId with
    | none => rfl
    | some id =>
        obtain ⟨scope, owner⟩ := placed.owner id (by rw [← inside, ← placed.keyed]; rfl)
        exact housed id scope owner
  rw [residentSymbol?, if_pos kept]

theorem collect_eq_self_of_forest
    {scopes : ScopeEntries}
    (forest : ScopeTree.Forest scopes)
    {keep : String → Bool}
    (housed : ∀ id scope, scopes.get? id = some scope → keep id = true) :
    scopes.collect (residentScope? keep) = scopes := by
  refine OrderedMap.collect_eq_self fun entry member => ?_
  have found := (forest.distinct.get?_eq_some_iff entry.1 entry.2).mpr member
  have children : entry.2.childIds.keeping keep = entry.2.childIds := by
    refine congrArg NameSet.mk (List.filter_eq_self.mpr fun child among => ?_)
    have listed : ScopeTree.childrenOf? scopes entry.1 = some entry.2.childIds := by
      rw [ScopeTree.childrenOf?, found, Option.map_some]
    have inside := (forest.linked entry.1 entry.2.childIds listed child).mp among
    obtain ⟨scope, stored, -⟩ := (ScopeTree.parentOf?_eq_some_iff _ _ _).mp inside
    exact housed child scope stored
  rw [residentScope?, if_pos (housed entry.1 entry.2 found), Scope.among, children]

/-- A registry without guests is its own residue. -/
theorem Reachable.residue_eq_self
    (reachable : registry.Reachable)
    (guestless : home.Guestless registry) :
    home.residue registry = registry := by
  have once := reachable.listsOnce
  have housed : ∀ document id scope, (registry.scopes.entries document).get? id = some scope →
      home.houses document id = true := fun document id scope found =>
    guestless document id ((ScopeTree.has_some_eq_true_iff _ _ _).mpr ⟨scope, found⟩)
  have table : ∀ space, home.residentTable (registry.table space) = registry.table space := by
    intro space
    refine congrArg SymbolTable.mk (OrderedMap.collect_eq_self ?_)
    rintro ⟨document, symbols⟩ member
    have found := ((once.table space).get?_eq_some_iff document symbols).mpr member
    have entries : (registry.table space).entries document = symbols := by
      rw [SymbolTable.entries, getD, found, Option.getD_some]
    have owned := (reachable.consistent document).owned space
    rw [entries] at owned
    dsimp only
    rw [owned.collect_eq_self (housed document), inhabited?,
      (reachable.tidyAt document).table space symbols found, if_neg Bool.false_ne_true]
  have scopes : ∀ entry ∈ registry.scopes.scopes.entries,
      (OrderedMap.collect (residentScope? (home.houses entry.1)) entry.2).inhabited? =
        some entry.2 := by
    rintro ⟨document, scopes⟩ member
    have found := (once.scopes.get?_eq_some_iff document scopes).mpr member
    have entries : registry.scopes.entries document = scopes := by
      rw [ScopeTree.entries, getD, found, Option.getD_some]
    have forest := (reachable.consistent document).forest
    have stored := housed document
    rw [entries] at forest stored
    rw [collect_eq_self_of_forest forest stored, inhabited?,
      (reachable.tidyAt document).scopes.scopes scopes found, if_neg Bool.false_ne_true]
  have active : ∀ entry ∈ registry.scopes.active.entries,
      residentStack? (home.houses entry.1) entry.2 = some entry.2 := by
    rintro ⟨document, stack⟩ member
    have found := (once.active.get?_eq_some_iff document stack).mpr member
    have entered : registry.scopes.stack document = stack := by
      rw [ScopeTree.stack, getD, found, Option.getD_some]
    have kept : stack.filter (home.houses document) = stack := by
      refine List.filter_eq_self.mpr fun id among => guestless document id ?_
      have stored := (reachable.tidyAt document).active id (entered ▸ among)
      exact (contains_iff_mem_keys _ _).mpr stored
    rw [residentStack?, kept, (reachable.tidyAt document).scopes.active stack found,
      if_neg Bool.false_ne_true]
  have tree : home.residentTree registry.scopes = registry.scopes :=
    congrArg₂ ScopeTree.mk (OrderedMap.collect_eq_self scopes)
      (OrderedMap.collect_eq_self active)
  unfold residue
  rw [tree]
  exact congrArg₂ (Registry.mk · · _) (table .vars) (table .functions)

/-- At home there are residents only. -/
theorem Reachable.shows_home (atHome : home.Reachable) : Shows home home home :=
  ⟨atHome.listsOnce, atHome.residue_eq_self fun _ _ stored => stored⟩

/-- A registry that shows what there is at home, and has no guests, is as at home. -/
theorem Shows.eq_home
    (shows : Shows home home registry)
    (reachable : registry.Reachable)
    (guestless : home.Guestless registry) :
    registry = home :=
  (reachable.residue_eq_self guestless).symm.trans shows.residue

end Registry

end LuauNodes
