import LuauNodes.Proofs.Registry.Grounding

/-!
# Destruction of scopes

What goes when a scope is destroyed, and what stays.  The scopes that go are the
scope and everything below it, each of them once and before its parent.  With
them go the symbols that they own and their places on the stack, and the former
parent loses one child.  Everything else stays as it was and where it was, in the
document and in the others.
-/

namespace LuauNodes

open ScopeTree (Forest ParentChain)

/-- A scope that has lost a child, if it is the parent. -/
def Scope.losing (parentId : Option String) (childId : String) (scope : Scope) : Scope :=
  if parentId = some scope.id then { scope with childIds := scope.childIds.erase childId }
  else scope

/-! ## Scopes that go -/

namespace ScopeTree

variable {tree : ScopeTree} {document id : String}

theorem nodup_doomed (forest : Forest (tree.entries document)) (id : String) :
    (tree.doomed document id).Nodup := by
  have increasing := forest.childrenIncreasing
  rw [doomed, List.nodup_append]
  refine ⟨(List.reverse_perm _).nodup_iff.mpr (nodup_descendants increasing id), by simp, ?_⟩
  intro other below last here same
  rw [List.mem_reverse, mem_descendants_iff] at below
  rw [same, List.mem_singleton.mp here] at below
  obtain ⟨outer, chain, member⟩ := (forest.isBelow_iff id id).mp below
  exact chain.not_mem_self member

/-- The scopes that go with a scope are those that have it on their chain. -/
theorem mem_doomed_iff_chain
    (forest : Forest (tree.entries document))
    {scope : Scope}
    (stored : (tree.entries document).get? id = some scope)
    (other : String) :
    other ∈ tree.doomed document id ↔
      ∃ outer, ParentChain (tree.entries document) other outer ∧ id ∈ other :: outer := by
  rw [Registry.mem_doomed_iff, forest.isBelow_iff]
  constructor
  · rintro (rfl | ⟨outer, chain, member⟩)
    · obtain ⟨outer, chain⟩ := forest.grounded other scope stored
      exact ⟨outer, chain, List.mem_cons_self⟩
    · exact ⟨outer, chain, List.mem_cons_of_mem other member⟩
  · rintro ⟨outer, chain, member⟩
    rcases List.mem_cons.mp member with here | further
    · exact Or.inl here.symm
    · exact Or.inr ⟨outer, chain, further⟩

/-- A scope goes before its parent. -/
theorem sublist_doomed
    (forest : Forest (tree.entries document))
    {parent child : String}
    (inside : parentOf? (tree.entries document) child = some (some parent))
    (parentGone : parent ∈ tree.doomed document id)
    (childGone : child ∈ tree.doomed document id) :
    [child, parent].Sublist (tree.doomed document id) := by
  rcases (Registry.mem_doomed_iff id child).mp childGone with rfl | below
  · -- The parent of the scope itself stays: else the scope would lie around its own parent.
    rcases (Registry.mem_doomed_iff child parent).mp parentGone with rfl | below
    · obtain ⟨outer, chain⟩ := forest.exists_parentChain inside
      cases chain with
      | top outermost => simp [inside] at outermost
      | under again chain =>
          rw [inside, Option.some.injEq, Option.some.injEq] at again
          subst again
          exact absurd List.mem_cons_self (ParentChain.under inside chain).not_mem_self
    · obtain ⟨outer, chain, member⟩ := (forest.isBelow_iff child parent).mp below
      exact absurd (List.mem_cons_of_mem parent member)
        (ParentChain.under inside chain).not_mem_self
  · have found : child ∈ tree.descendants document id :=
      (mem_descendants_iff id child).mpr below
    obtain ⟨other, isChild, ordered⟩ :=
      (descendants_parentsFirst tree document id).exists_sublist found
    have same := (forest.isChild_iff other child).mp isChild
    rw [inside, Option.some.injEq, Option.some.injEq] at same
    subst same
    have turned := ordered.reverse
    rwa [List.reverse_cons, List.reverse_cons, List.reverse_nil, List.nil_append,
      List.singleton_append, List.reverse_cons] at turned

theorem entries_dropChild
    {scopes : ScopeEntries}
    (keyed : ∀ entry ∈ scopes.entries, entry.2.id = entry.1)
    (parentId : Option String)
    (childId : String) :
    (dropChild scopes parentId childId).entries =
      scopes.entries.map fun entry => (entry.1, entry.2.losing parentId childId) := by
  cases parentId with
  | none => simp [dropChild, Scope.losing]
  | some parent =>
      refine List.map_congr_left fun entry member => ?_
      simp only [Scope.losing, keyed entry member, Option.some.injEq]
      by_cases here : entry.1 = parent
      · rw [if_pos here, if_pos here.symm]
      · rw [if_neg here, if_neg fun same => here same.symm]

theorem get?_dropChild
    {scopes : ScopeEntries}
    (proper : scopes.Everywhere Proper)
    (parentId : Option String)
    (childId id : String) :
    (dropChild scopes parentId childId).get? id =
      (scopes.get? id).map (Scope.losing parentId childId) := by
  cases parentId with
  | none => cases found : scopes.get? id <;> simp [dropChild, Scope.losing, found]
  | some parent =>
      rw [dropChild, OrderedMap.get?_modify]
      cases found : scopes.get? id with
      | none => simp
      | some scope =>
          simp only [Scope.losing, (proper id scope found).keyed, Option.map_some,
            Option.some.injEq]
          split <;> rfl

/-- The scopes that stay, by their identifiers. -/
theorem get?_pruned
    {scopes : ScopeEntries}
    (proper : scopes.Everywhere Proper)
    (parentId : Option String)
    (id : String)
    (removed : List String)
    (other : String) :
    (Forest.pruned scopes parentId id removed).get? other =
      if other ∈ removed then none
      else (scopes.get? other).map (Scope.losing parentId id) := by
  rw [Forest.pruned, OrderedMap.get?_foldl_erase, get?_dropChild proper]

/-- The scopes that stay, in their order. -/
theorem values_pruned
    {scopes : ScopeEntries}
    (keyed : ∀ entry ∈ scopes.entries, entry.2.id = entry.1)
    (parentId : Option String)
    (id : String)
    (removed : List String) :
    (Forest.pruned scopes parentId id removed).values =
      (scopes.values.filter fun scope => scope.id ∉ removed).map
        (Scope.losing parentId id) := by
  have kept : (scopes.entries.filter fun entry => entry.1 ∉ removed) =
      scopes.entries.filter fun entry => entry.2.id ∉ removed :=
    List.filter_congr fun entry member => by rw [keyed entry member]
  rw [OrderedMap.values, Forest.pruned, OrderedMap.entries_foldl_erase, entries_dropChild keyed,
    List.filter_map, List.map_map, OrderedMap.values, List.filter_map, List.map_map]
  exact congrArg (List.map _) kept

end ScopeTree

/-! ## Symbols that go -/

namespace Registry

open OrderedMap

variable {registry : Registry} {document : String} {scopes : ScopeEntries}

/-- The symbols that some scopes do not own. -/
def disowned (gone : List String) (symbols : SymbolEntries) : SymbolEntries :=
  ⟨symbols.entries.filter fun entry => entry.1.scopeId ∉ gone.map some⟩

theorem disowned_nil (symbols : SymbolEntries) : disowned [] symbols = symbols := by
  simp [disowned]

theorem disowned_disowned (first second : List String) (symbols : SymbolEntries) :
    disowned second (disowned first symbols) = disowned (first ++ second) symbols := by
  simp only [disowned, List.filter_filter, List.map_append, List.mem_append, not_or,
    Bool.decide_and, Bool.and_comm]

/-- Symbols keep their order when those of some scopes go. -/
theorem Owned.values_disowned
    {symbols : SymbolEntries}
    (owned : Owned scopes symbols)
    (gone : List String) :
    (disowned gone symbols).values =
      symbols.values.filter fun symbol => symbol.scopeId ∉ gone.map some := by
  rw [values, values, List.filter_map]
  refine congrArg (List.map _) (List.filter_congr fun entry member => ?_)
  have found := (owned.distinct.get?_eq_some_iff entry.1 entry.2).mpr member
  have keyed := (owned.placed entry.1 entry.2 found).keyed
  rw [← keyed]
  rfl

/-- Erasing the keys of a scope's symbols leaves what the scope does not own. -/
theorem foldl_erase_memberKeys
    {table : SymbolTable}
    (owned : Owned scopes (table.entries document))
    (id : String) :
    (table.memberKeys document (some id)).foldl erase (table.entries document) =
      disowned [id] (table.entries document) := by
  refine congrArg OrderedMap.mk ((entries_foldl_erase _ _).trans ?_)
  refine List.filter_congr fun entry member => decide_eq_decide.mpr (not_congr ?_)
  have found := (owned.distinct.get?_eq_some_iff entry.1 entry.2).mpr member
  have keyed : (table.entries document).Everywhere fun key symbol => symbol.key = key :=
    fun key symbol found => (owned.placed key symbol found).keyed
  rw [SymbolTable.mem_memberKeys_iff owned.distinct keyed, found, List.map_singleton,
    List.mem_singleton]
  exact and_iff_right rfl

theorem entries_dropOwned
    {change : Change (List String)}
    (owned : ∀ space, Owned scopes ((change.registry.table space).entries document))
    (id : String)
    (space : Namespace) :
    ((dropOwned document change id).registry.table space).entries document =
      disowned [id] ((change.registry.table space).entries document) := by
  let middle := (dropMembers .vars document id change.registry).registry
  show ((dropMembers .functions document id middle).registry.table space).entries document = _
  cases space with
  | vars =>
      rw [table_dropMembers, if_neg (by simp), table_dropMembers, if_pos ⟨rfl, rfl⟩]
      exact foldl_erase_memberKeys (owned .vars) id
  | functions =>
      have same : (middle.table .functions).entries document =
          (change.registry.table .functions).entries document := by
        rw [table_dropMembers, if_neg (by simp)]
      rw [table_dropMembers, if_pos ⟨rfl, rfl⟩, ← same]
      exact foldl_erase_memberKeys (same ▸ owned .functions) id

theorem entries_foldl_dropOwned
    {change : Change (List String)}
    (owned : ∀ space, Owned scopes ((change.registry.table space).entries document))
    (gone : List String)
    (space : Namespace) :
    ((gone.foldl (dropOwned document) change).registry.table space).entries document =
      disowned gone ((change.registry.table space).entries document) := by
  induction gone generalizing change with
  | nil => exact (disowned_nil _).symm
  | cons id rest ih =>
      have first := releasedIn_dropOwned owned id
      rw [List.foldl_cons, ih fun other => (first.here other).owned (owned other),
        entries_dropOwned owned, disowned_disowned, List.singleton_append]

/-! ## Other documents -/

theorem without_setTable_removeEach
    (registry : Registry)
    (space : Namespace)
    (document : String)
    (keys : List SymbolKey) :
    (registry.setTable space ((registry.table space).removeEach document keys).2).without
        document =
      registry.without document := by
  cases space <;> simp only [setTable, table, without, SymbolTable.without_removeEach]

theorem without_foldl_dropOwned
    (change : Change (List String))
    (gone : List String) :
    (gone.foldl (dropOwned document) change).registry.without document =
      change.registry.without document := by
  induction gone generalizing change with
  | nil => rfl
  | cons id rest ih =>
      rw [List.foldl_cons, ih]
      show (dropMembers .functions document id
        (dropMembers .vars document id change.registry).registry).registry.without document = _
      exact (without_setTable_removeEach _ .functions document _).trans
        (without_setTable_removeEach _ .vars document _)

/-! ## The whole operation -/

theorem result_foldl_dropOwned
    (change : Change (List String))
    (gone : List String) :
    (gone.foldl (dropOwned document) change).result = change.result := by
  induction gone generalizing change with
  | nil => rfl
  | cons id rest ih => exact ih (dropOwned document change id)

/-- What becomes of a document when one of its scopes is destroyed. -/
structure Destruction
    (registry : Registry)
    (document : String)
    (target : Scope)
    (change : Change (List String)) : Prop where
  /-- The scopes that go are those that have the scope on their chain, and the scope itself. -/
  whole : ∀ other, other ∈ change.result ↔
    ∃ outer, ParentChain (registry.scopes.entries document) other outer ∧
      target.id ∈ other :: outer
  /-- Every scope goes once. -/
  once : change.result.Nodup
  /-- Every scope goes before its parent. -/
  innermostFirst : ∀ scope ∈ registry.scopes.list document, ∀ parent,
    scope.parentId = some parent → parent ∈ change.result → scope.id ∈ change.result →
      [scope.id, parent].Sublist change.result
  /-- The other scopes stay, and only the parent has changed: it has one child less. -/
  scopes : change.registry.scopes.list document =
    ((registry.scopes.list document).filter fun scope => scope.id ∉ change.result).map
      (Scope.losing target.parentId target.id)
  /-- Look-up finds the other scopes as they are listed. -/
  scopeAt : ∀ other, change.registry.scopes.get? document (some other) =
    if other ∈ change.result then none
    else (registry.scopes.get? document (some other)).map (Scope.losing target.parentId target.id)
  /-- The symbols of the other scopes and the global ones stay, in their order. -/
  symbols : ∀ space, (change.registry.table space).list document =
    ((registry.table space).list document).filter
      fun symbol => symbol.scopeId ∉ change.result.map some
  /-- Look-up finds the symbols that stay. -/
  symbolAt : ∀ space key, (change.registry.table space).lookup? document key =
    if key.scopeId ∈ change.result.map some then none
    else (registry.table space).lookup? document key
  /-- The other scopes that were entered stay so, in their order. -/
  active : change.registry.scopes.stack document =
    (registry.scopes.stack document).filter (· ∉ change.result)
  /-- Nothing changes in any other document. -/
  elsewhere : change.registry.without document = registry.without document

theorem ConsistentAt.destruction
    {pending : List (Option String)}
    (consistent : registry.ConsistentAt document pending)
    {id : String}
    {scope : Scope}
    (stored : registry.scopes.get? document (some id) = some scope) :
    registry.Destruction document scope (registry.destroyScope document id) := by
  let tree := (registry.scopes.destroy document id).2
  let removed := registry.scopes.doomed document id
  have forest := consistent.forest
  have id_eq : scope.id = id := (forest.proper id scope stored).keyed
  have change := destroyScope_eq stored
  have result : (registry.destroyScope document id).result = removed := by
    rw [change]
    exact result_foldl_dropOwned _ removed
  have released := consistent.releasedIn_destroyScope stored
  have entries : (registry.destroyScope document id).registry.scopes.entries document =
      Forest.pruned (registry.scopes.entries document) scope.parentId id removed := by
    rw [released.scopes]
    exact (registry.scopes.entries_destroy document id document stored).trans (if_pos rfl)
  subst id_eq
  constructor
  case whole =>
    rw [result]
    exact ScopeTree.mem_doomed_iff_chain forest stored
  case once =>
    rw [result]
    exact ScopeTree.nodup_doomed forest scope.id
  case innermostFirst =>
    rw [result]
    intro other listed parent inside
    have otherAt := (consistent.mem_list_iff other).mp listed
    exact ScopeTree.sublist_doomed forest
      ((ScopeTree.parentOf?_eq_some_iff _ other.id _).mpr ⟨other, otherAt, inside⟩)
  case scopes =>
    rw [result, ScopeTree.list, entries]
    exact ScopeTree.values_pruned (fun entry member => forest.keyed_of_mem member) scope.parentId
      scope.id removed
  case scopeAt =>
    intro other
    rw [result, ScopeTree.get?, Option.bind_some, entries]
    exact ScopeTree.get?_pruned forest.proper scope.parentId scope.id removed other
  case symbols =>
    intro space
    have owned := consistent.owned space
    have ownedStill : ∀ other, Owned (registry.scopes.entries document)
        (((registry.felling document scope.id).registry.table other).entries document) := by
      intro other
      rw [table_felling]
      exact consistent.owned other
    have symbols : ((registry.destroyScope document scope.id).registry.table space).entries
        document = disowned removed ((registry.table space).entries document) := by
      rw [change]
      refine (entries_foldl_dropOwned ownedStill removed space).trans ?_
      rw [table_felling]
    rw [result, SymbolTable.list, symbols]
    exact owned.values_disowned removed
  case symbolAt =>
    intro space key
    rw [result]
    refine ((released.here space).kept key).trans ?_
    rw [table_withScopes]
    rfl
  case active =>
    rw [result, released.scopes]
    exact registry.scopes.stack_destroy document scope.id stored
  case elsewhere =>
    rw [change]
    refine (without_foldl_dropOwned _ removed).trans ?_
    exact congrArg (Registry.mk _ _) (registry.scopes.without_destroy document scope.id)

end Registry

/-- What destroying a scope does to a document, whether the scope is stored or not. -/
structure Registry.DestroysExactly (registry : Registry) (document id : String) : Prop where
  /-- A scope that is not stored is not removed, nothing changes, and nobody is told. -/
  missing : registry.scopes.has document (some id) = false →
    (registry.destroyScope document id).result = [] ∧
      (registry.destroyScope document id).registry = registry ∧
      (registry.destroyScope document id).events = []
  /-- A stored scope goes with everything below it, and nothing else changes. -/
  stored : ∀ scope, registry.scopes.get? document (some id) = some scope →
    registry.Destruction document scope (registry.destroyScope document id)

/-- In every registry that some run comes to, destroying a scope removes the scope with what lies
below it and what these own, and nothing else. -/
theorem Registry.Reachable.destroyScope_exact
    {registry : Registry}
    (reachable : registry.Reachable)
    (document id : String) :
    registry.DestroysExactly document id where
  missing := by
    intro absent
    have missing := (ScopeTree.has_some_eq_false_iff registry.scopes document id).mp absent
    rw [destroyScope_of_missing missing]
    exact ⟨rfl, rfl, rfl⟩
  stored := fun _ stored => (reachable.consistent document).destruction stored

/-- A function body goes with the loop in it and the variable of that loop. -/
theorem Registry.destroyScope_exact_while_shadowing :
    (Dispatch.asking Operation.shadowing).registry.Reachable ∧
      (Dispatch.asking Operation.shadowing).registry.scopes.has "main" (some "body") = true ∧
      (Dispatch.asking Operation.shadowing).registry.scopes.has "main" (some "loop") = true ∧
      (Dispatch.asking Operation.shadowing).registry.DestroysExactly "main" "body" :=
  ⟨(Dispatch.reachable_asking Operation.shadowing).registry,
    by decide,
    by decide,
    Registry.Reachable.destroyScope_exact
      (Dispatch.reachable_asking Operation.shadowing).registry "main" "body"⟩

end LuauNodes
