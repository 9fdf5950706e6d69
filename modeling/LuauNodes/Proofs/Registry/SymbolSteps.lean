import LuauNodes.Proofs.Registry.Consistency
import LuauNodes.Proofs.Registry.Runs

/-!
# What operations on symbols keep

Operations on symbols keep every document consistent.  Writes to a
table keep all but the member names of the scopes that they touch; bringing the
names of a scope up to date settles that scope.
-/

namespace LuauNodes.Registry

open OrderedMap
open ScopeTree (Forest parentOf? parentOf?_eq_some_iff addChild)

variable {registry : Registry} {document : String} {pending : List (Option String)}

/-- A change of one document keeps the others consistent. -/
theorem Consistent.of_document
    {after : Registry}
    (consistent : registry.Consistent)
    (here : after.ConsistentAt document [])
    (elsewhere : ∀ other, document ≠ other → SameContents other after registry) :
    after.Consistent := by
  intro other
  by_cases same : document = other
  · exact same ▸ here
  · exact (consistent other).transfer (elsewhere other same)

/-! ## Member names -/

theorem syncMembers_of_missing
    {scopeId : Option String}
    (missing : registry.scopes.get? document scopeId = none) :
    registry.syncMembers document scopeId = registry := by
  rw [syncMembers, ScopeTree.setMembers, missing]

theorem entries_syncMembers
    {id : String}
    {scope : Scope}
    (stored : (registry.scopes.entries document).get? id = some scope)
    (keyed : scope.id = id)
    (other : String) :
    (registry.syncMembers document (some id)).scopes.entries other =
      if document = other then
        (registry.scopes.entries document).modify id fun held =>
          { held with memberNames := registry.memberNames document (some id) }
      else registry.scopes.entries other := by
  have found : registry.scopes.get? document (some id) = some scope := stored
  rw [syncMembers, ScopeTree.setMembers, found]
  show (ScopeTree.setEntries _ _ _).entries other = _
  rw [ScopeTree.entries_setEntries, keyed]

theorem enrolled_syncMembers
    (scopeId : Option String)
    (id : String)
    (names : NameSet) :
    Enrolled (registry.syncMembers document scopeId) document id names ↔
      Enrolled registry document id names := by
  simp only [Enrolled, table_syncMembers]

/-- Bringing the names of a scope up to date settles that scope. -/
theorem ConsistentAt.syncMembers
    {scopeId : Option String}
    (consistent : registry.ConsistentAt document (scopeId :: pending)) :
    (registry.syncMembers document scopeId).ConsistentAt document pending := by
  cases found : registry.scopes.get? document scopeId with
  | none =>
      rw [syncMembers_of_missing found]
      refine ⟨consistent.forest, consistent.owned, ?_⟩
      intro id scope stored settled
      apply consistent.enrolled id scope stored
      intro member
      rcases List.mem_cons.mp member with here | later
      · rw [← here, ScopeTree.get?, Option.bind_some, stored] at found
        cases found
      · exact settled later
  | some scope =>
      rcases Option.bind_eq_some_iff.mp found with ⟨id, rfl, stored⟩
      have keyed := (consistent.forest.proper id scope stored).keyed
      have entries := entries_syncMembers stored keyed document
      rw [if_pos rfl] at entries
      refine ⟨?_, ?_, ?_⟩
      · rw [entries]
        exact consistent.forest.modify_members id _
      · intro space
        rw [table_syncMembers]
        refine ⟨(consistent.owned space).distinct, ?_⟩
        intro key symbol symbolAt
        have placed := (consistent.owned space).placed key symbol symbolAt
        refine ⟨placed.keyed, ?_, placed.kind⟩
        intro owner owned
        rcases placed.owner owner owned with ⟨held, heldAt⟩
        rw [entries, get?_modify, heldAt]
        split <;> exact ⟨_, rfl⟩
      · intro other held heldAt settled
        rw [enrolled_syncMembers]
        rw [entries, get?_modify] at heldAt
        by_cases itself : id = other
        · subst itself
          rw [if_pos rfl, stored] at heldAt
          cases heldAt
          exact enrolled_memberNames consistent.owned id
        · rw [if_neg itself] at heldAt
          apply consistent.enrolled other held heldAt
          intro member
          rcases List.mem_cons.mp member with here | later
          · exact itself (Option.some.inj here).symm
          · exact settled later

theorem sameContents_syncMembers
    (scopeId : Option String)
    {other : String}
    (apart : document ≠ other) :
    SameContents other (registry.syncMembers document scopeId) registry := by
  refine ⟨fun space => by rw [table_syncMembers], ?_⟩
  show (registry.scopes.setMembers document scopeId _).entries other = _
  unfold ScopeTree.setMembers
  split
  · rfl
  · rw [ScopeTree.entries_setEntries, if_neg apart]

/-! ## Tables -/

/-- The registry with the symbols of one namespace of a document replaced. -/
def withSymbols
    (registry : Registry)
    (space : Namespace)
    (document : String)
    (symbols : SymbolEntries) :
    Registry :=
  registry.setTable space ((registry.table space).setEntries document symbols)

theorem sameContents_withSymbols
    (space : Namespace)
    (symbols : SymbolEntries)
    {other : String}
    (apart : document ≠ other) :
    SameContents other (registry.withSymbols space document symbols) registry := by
  refine ⟨?_, by rw [withSymbols, scopes_setTable]⟩
  intro kind
  rw [withSymbols, table_setTable]
  split
  · rename_i same
    rw [SymbolTable.entries_setEntries, if_neg apart, same]
  · rfl

/-- Replacing symbols by symbols that fit the scopes keeps consistency, except about the names of
scopes in which a name appeared or went. -/
theorem ConsistentAt.withSymbols
    (consistent : registry.ConsistentAt document pending)
    {space : Namespace}
    {symbols : SymbolEntries}
    {touched : List (Option String)}
    (owned : Owned (registry.scopes.entries document) symbols)
    (wider : pending ⊆ touched)
    (names : ∀ id name, some id ∉ touched →
      (symbols.get? ⟨some id, name⟩).isSome =
        (((registry.table space).entries document).get? ⟨some id, name⟩).isSome) :
    (registry.withSymbols space document symbols).ConsistentAt document touched := by
  have tables : ∀ kind,
      ((registry.withSymbols space document symbols).table kind).entries document =
        if space = kind then symbols else (registry.table kind).entries document := by
    intro kind
    rw [Registry.withSymbols, table_setTable]
    split
    · rw [SymbolTable.entries_setEntries, if_pos rfl]
    · rfl
  have scopes : (registry.withSymbols space document symbols).scopes = registry.scopes :=
    scopes_setTable _ _ _
  refine ⟨?_, ?_, ?_⟩
  · rw [scopes]
    exact consistent.forest
  · intro kind
    rw [scopes, tables]
    split
    · exact owned
    · exact consistent.owned kind
  · intro id scope stored settled name
    rw [scopes] at stored
    rw [consistent.enrolled id scope stored (fun member => settled (wider member)) name]
    refine exists_congr fun kind => ?_
    rw [tables]
    split
    · rename_i same
      rw [names id name settled, same]
    · rfl

/-! ## Declaring, changing and removing symbols -/

theorem kindOf_eq_global_iff
    (consistent : registry.ConsistentAt document pending)
    (scopeId : Option String)
    (known : scopeId ≠ none → registry.scopes.has document scopeId = true) :
    registry.scopes.kindOf document scopeId = .global ↔ scopeId = none := by
  cases scopeId with
  | none => simp [ScopeTree.kindOf, ScopeTree.get?]
  | some id =>
      rcases Option.isSome_iff_exists.mp (known (Option.some_ne_none id)) with ⟨scope, stored⟩
      have inner := (consistent.forest.proper id scope stored).inner
      simp [ScopeTree.kindOf, stored, inner]

theorem Consistent.declare
    (consistent : registry.Consistent)
    (space : Namespace)
    (document : String)
    (symbol : Symbol) :
    (registry.declare space document symbol).registry.Consistent := by
  have accepted : (symbol.scopeId ≠ none → registry.scopes.has document symbol.scopeId = true) →
      ((registry.withSymbols space document
          (((registry.table space).entries document).insert symbol.key
            { symbol with
              scopeKind := registry.scopes.kindOf document symbol.scopeId })).syncMembers
        document symbol.scopeId).Consistent := by
    intro known
    apply consistent.of_document
    · apply ConsistentAt.syncMembers
      apply (consistent document).withSymbols
      · have before := (consistent document).owned space
        refine ⟨before.distinct.insert _ _, before.placed.insert ⟨rfl, ?_, ?_⟩⟩
        · intro id owner
          have has := known (by rw [owner]; exact Option.some_ne_none id)
          rw [owner] at has
          exact Option.isSome_iff_exists.mp has
        · exact kindOf_eq_global_iff (consistent document) symbol.scopeId known
      · exact List.nil_subset _
      · intro id name settled
        have apart : symbol.key ≠ ⟨some id, name⟩ := by
          intro same
          exact settled (List.mem_singleton.mpr (congrArg SymbolKey.scopeId same).symm)
        rw [get?_insert, if_neg apart]
    · intro other apart
      exact (sameContents_syncMembers _ apart).trans (sameContents_withSymbols _ _ apart)
  unfold Registry.declare
  split
  · exact consistent
  · split
    · exact consistent
    · rename_i refused
      apply accepted
      intro owned
      rcases Option.ne_none_iff_exists'.mp owned with ⟨id, owner⟩
      cases known : registry.scopes.has document symbol.scopeId with
      | true => rfl
      | false => exact (refused id owner known).elim

theorem Consistent.revise
    (consistent : registry.Consistent)
    (space : Namespace)
    (document name : String)
    (scopeId : Option String)
    (fields : Record.Fields) :
    (registry.revise space document name scopeId fields).registry.Consistent := by
  unfold Registry.revise SymbolTable.revise SymbolTable.lookup?
  cases found : ((registry.table space).entries document).get? ⟨scopeId, name⟩ with
  | none => exact consistent
  | some current =>
      cases merged : current.merge (fields.filter fun field => field.1 != "scope_type") with
      | bad faults =>
          simp only [merged]
          exact consistent
      | ok symbol =>
          have kindless : Json.entry? "scope_type"
              (fields.filter fun field => field.1 != "scope_type") = none := by
            rw [Json.entry?_eq_none_iff]
            intro field member
            simpa using (List.mem_filter.mp member).2
          rcases Symbol.merge_eq_ok merged with ⟨named, owner, kind⟩
          have before := (consistent document).owned space
          have placed := before.placed _ current found
          have keyed : symbol.key = ⟨scopeId, name⟩ := by
            rw [← placed.keyed, Symbol.key, Symbol.key, named, owner]
          have after : (registry.withSymbols space document
              (((registry.table space).entries document).insert
                ⟨scopeId, name⟩ symbol)).Consistent := by
            apply consistent.of_document
            · apply (consistent document).withSymbols
              · refine ⟨before.distinct.insert _ _, before.placed.insert ⟨keyed, ?_, ?_⟩⟩
                · rw [owner]
                  exact placed.owner
                · rw [kind kindless, owner]
                  exact placed.kind
              · exact List.Subset.refl _
              · intro id other _
                rw [get?_insert]
                split
                · rename_i same
                  rw [← same, found]
                  rfl
                · rfl
            · intro other apart
              exact sameContents_withSymbols _ _ apart
          simp only [merged]
          exact after

theorem Consistent.remove
    (consistent : registry.Consistent)
    (space : Namespace)
    (document name : String)
    (scopeId : Option String) :
    (registry.remove space document name scopeId).registry.Consistent := by
  unfold Registry.remove
  dsimp only
  split
  · exact consistent
  · show ((registry.withSymbols space document
        (((registry.table space).entries document).erase ⟨scopeId, name⟩)).syncMembers
      document scopeId).Consistent
    apply consistent.of_document
    · apply ConsistentAt.syncMembers
      apply (consistent document).withSymbols
      · have before := (consistent document).owned space
        exact ⟨before.distinct.erase _, before.placed.erase _⟩
      · exact List.nil_subset _
      · intro id other settled
        have apart : (⟨scopeId, name⟩ : SymbolKey) ≠ ⟨some id, other⟩ := by
          intro same
          exact settled (List.mem_singleton.mpr (congrArg SymbolKey.scopeId same).symm)
        rw [get?_erase, if_neg apart]
    · intro other apart
      exact (sameContents_syncMembers _ apart).trans (sameContents_withSymbols _ _ apart)

/-- Bringing the names of some scopes up to date settles them all. -/
theorem ConsistentAt.foldl_syncMembers
    {touched : List (Option String)}
    (consistent : registry.ConsistentAt document touched) :
    (touched.foldl (fun rest scopeId => rest.syncMembers document scopeId)
      registry).ConsistentAt document [] := by
  induction touched generalizing registry with
  | nil => exact consistent
  | cons scopeId rest ih => exact ih consistent.syncMembers

theorem sameContents_foldl_syncMembers
    (touched : List (Option String))
    {other : String}
    (apart : document ≠ other) :
    SameContents other
      (touched.foldl (fun rest scopeId => rest.syncMembers document scopeId) registry)
      registry := by
  induction touched generalizing registry with
  | nil => exact .refl other registry
  | cons scopeId rest ih => exact ih.trans (sameContents_syncMembers scopeId apart)

theorem Consistent.clearSymbols
    (consistent : registry.Consistent)
    (space : Namespace)
    (document : String) :
    (registry.clearSymbols space document).registry.Consistent := by
  let touched := ((registry.table space).list document).map Symbol.scopeId
  show (touched.foldl (fun rest scopeId => rest.syncMembers document scopeId)
    (registry.withSymbols space document ∅)).Consistent
  apply consistent.of_document
  · apply ConsistentAt.foldl_syncMembers
    apply (consistent document).withSymbols
    · exact ⟨distinct_empty, everywhere_empty⟩
    · exact List.nil_subset _
    · intro id name settled
      have before := (consistent document).owned space
      -- A scope that was not touched owned no symbol that could go.
      cases found : ((registry.table space).entries document).get? ⟨some id, name⟩ with
      | none => rfl
      | some symbol =>
          have keyed := (before.placed _ symbol found).keyed
          have owner : symbol.scopeId = some id := congrArg SymbolKey.scopeId keyed
          refine absurd (List.mem_map.mpr ⟨symbol, ?_, owner⟩) settled
          exact mem_values_of_get?_eq_some found
  · intro other apart
    exact (sameContents_foldl_syncMembers _ apart).trans (sameContents_withSymbols _ _ apart)

end LuauNodes.Registry
