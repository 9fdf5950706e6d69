import LuauNodes.Proofs.Registry.Announcement
import LuauNodes.Proofs.Registry.LexicalVisibility

/-!
# Layout of a document

The scopes of a document with their placements, in the order in which they were
created.  Operations on symbols leave the layout as it is, in whichever document
they are, and a new scope under a stored one goes to its end.  In a document
that is laid out in a forest every scope has visible symbols.
-/

namespace LuauNodes

open OrderedMap
open ScopeTree (Forest addChild parentOf?_eq_some_iff)

/-- The scopes of a document with their placements, in the order of creation. -/
abbrev Layout := List (String × ScopeKind × Option String × Option String)

def ScopeTree.layout (tree : ScopeTree) (document : String) : Layout :=
  (tree.entries document).entries.map fun entry => (entry.1, entry.2.placement)

namespace Registry

/-- The scopes of a document are a forest with the given layout. -/
structure LaidOut (registry : Registry) (document : String) (plan : Layout) : Prop where
  forest : Forest (registry.scopes.entries document)
  layout : registry.scopes.layout document = plan

variable {registry : Registry} {document : String} {plan : Layout}

/-! ## Symbols -/

theorem map_placement_modify
    (scopes : ScopeEntries)
    (id : String)
    {f : Scope → Scope}
    (kept : ∀ scope, (f scope).placement = scope.placement) :
    ((scopes.modify id f).entries.map fun entry => (entry.1, entry.2.placement)) =
      scopes.entries.map fun entry => (entry.1, entry.2.placement) := by
  rw [OrderedMap.modify, List.map_map]
  refine List.map_congr_left fun entry _ => ?_
  rw [Function.comp_apply]
  split
  · rw [kept]
  · rfl

theorem LaidOut.syncMembers
    (laidOut : registry.LaidOut document plan)
    (other : String)
    (scopeId : Option String) :
    (registry.syncMembers other scopeId).LaidOut document plan := by
  cases found : registry.scopes.get? other scopeId with
  | none =>
      rw [syncMembers_of_missing found]
      exact laidOut
  | some scope =>
      let names := registry.memberNames other scopeId
      have entries : (registry.syncMembers other scopeId).scopes.entries document =
          if other = document then
            (registry.scopes.entries other).modify scope.id fun stored =>
              { stored with memberNames := names }
          else registry.scopes.entries document := by
        rw [Registry.syncMembers, ScopeTree.setMembers, found]
        exact ScopeTree.entries_setEntries _ _ _ _
      by_cases here : other = document
      · subst here
        rw [if_pos rfl] at entries
        refine ⟨?_, ?_⟩
        · rw [entries]
          exact laidOut.forest.modify_members scope.id names
        · rw [ScopeTree.layout, entries]
          exact (map_placement_modify _ scope.id (by intro stored; rfl)).trans laidOut.layout
      · rw [if_neg here] at entries
        refine ⟨?_, ?_⟩
        · rw [entries]
          exact laidOut.forest
        · rw [ScopeTree.layout, entries]
          exact laidOut.layout

theorem LaidOut.setTable
    (laidOut : registry.LaidOut document plan)
    (space : Namespace)
    (table : SymbolTable) :
    (registry.setTable space table).LaidOut document plan := by
  have scopes := scopes_setTable registry space table
  exact ⟨scopes ▸ laidOut.forest, scopes ▸ laidOut.layout⟩

theorem LaidOut.declare
    (laidOut : registry.LaidOut document plan)
    (space : Namespace)
    (other : String)
    (symbol : Symbol) :
    (registry.declare space other symbol).registry.LaidOut document plan := by
  unfold Registry.declare
  split
  · exact laidOut
  · split
    · exact laidOut
    · exact (laidOut.setTable space _).syncMembers other symbol.scopeId

theorem LaidOut.remove
    (laidOut : registry.LaidOut document plan)
    (space : Namespace)
    (other name : String)
    (scopeId : Option String) :
    (registry.remove space other name scopeId).registry.LaidOut document plan := by
  unfold Registry.remove
  dsimp only
  split
  · exact laidOut
  · exact (laidOut.setTable space _).syncMembers other scopeId

/-! ## Scopes -/

theorem laidOut_nil (bare : registry.scopes.list document = []) :
    registry.LaidOut document [] := by
  have entries : registry.scopes.entries document = ∅ :=
    eq_empty_of_isEmpty (List.isEmpty_iff.mpr (List.map_eq_nil_iff.mp bare))
  refine ⟨?_, ?_⟩
  · rw [entries]
    exact Forest.empty
  · rw [ScopeTree.layout, entries]
    rfl

theorem LaidOut.keys (laidOut : registry.LaidOut document plan) :
    (registry.scopes.entries document).keys = plan.map (·.1) := by
  rw [← laidOut.layout, ScopeTree.layout, List.map_map]
  rfl

theorem LaidOut.has_iff (laidOut : registry.LaidOut document plan) (id : String) :
    registry.scopes.has document (some id) = true ↔ id ∈ plan.map (·.1) := by
  rw [← laidOut.keys, ← contains_iff_mem_keys]
  rfl

theorem LaidOut.list_ids (laidOut : registry.LaidOut document plan) :
    (registry.scopes.list document).map Scope.id = plan.map (·.1) := by
  rw [← laidOut.keys, ScopeTree.list, OrderedMap.values, OrderedMap.keys, List.map_map]
  exact List.map_congr_left fun entry member => laidOut.forest.keyed_of_mem member

/-- What the layout says of a scope is how the scope is stored. -/
theorem LaidOut.exists_stored
    (laidOut : registry.LaidOut document plan)
    {id : String}
    {kind : ScopeKind}
    {owner parent : Option String}
    (planned : (id, kind, owner, parent) ∈ plan) :
    ∃ scope, registry.scopes.get? document (some id) = some scope ∧ scope.id = id ∧
      scope.kind = kind ∧ scope.ownerNodeId = owner ∧ scope.parentId = parent := by
  rw [← laidOut.layout] at planned
  obtain ⟨⟨key, scope⟩, member, same⟩ := List.mem_map.mp planned
  obtain ⟨rfl, placed⟩ := Prod.mk.inj same
  have found := (laidOut.forest.distinct.get?_eq_some_iff key scope).mpr member
  obtain ⟨kindEq, ownerEq, parentEq⟩ := by simpa [Scope.placement] using placed
  exact ⟨scope, found, (laidOut.forest.proper key scope found).keyed, kindEq, ownerEq, parentEq⟩

theorem LaidOut.get?_eq_none
    (laidOut : registry.LaidOut document plan)
    {id : String}
    (fresh : id ∉ plan.map (·.1)) :
    (registry.scopes.entries document).get? id = none := by
  rw [← ScopeTree.has_some_eq_false_iff, Bool.eq_false_iff, ne_eq, laidOut.has_iff]
  exact fresh

theorem LaidOut.exists_get?
    (laidOut : registry.LaidOut document plan)
    {parent : Option String}
    (parentStored : ∀ outer, parent = some outer → outer ∈ plan.map (·.1)) :
    ∀ outer, parent = some outer →
      ∃ scope, (registry.scopes.entries document).get? outer = some scope := by
  intro outer isParent
  rw [← ScopeTree.has_some_eq_true_iff, laidOut.has_iff]
  exact parentStored outer isParent

/-- Planting a scope puts it at the end of the records and changes but the children of its
parent. -/
theorem LaidOut.plant
    (laidOut : registry.LaidOut document plan)
    {id : String}
    {kind : ScopeKind}
    {parent : Option String}
    (owner : Option String)
    (inner : kind ≠ .global)
    (fresh : id ∉ plan.map (·.1))
    (parentStored : ∀ outer, parent = some outer → outer ∈ plan.map (·.1)) :
    (registry.withScopes (registry.scopes.plant document (.fresh id kind parent owner))).LaidOut
      document (plan ++ [(id, kind, owner, parent)]) := by
  let requested : Scope := .fresh id kind parent owner
  let planted := Forest.planted (registry.scopes.entries document) requested
  have entries := registry.scopes.entries_plant document document requested
  rw [if_pos rfl] at entries
  constructor
  case forest =>
    show Forest ((registry.scopes.plant document requested).entries document)
    rw [entries]
    exact laidOut.forest.plant (laidOut.get?_eq_none fresh) inner (laidOut.exists_get? parentStored)
  case layout =>
    have absent : id ∉ (registry.scopes.entries document).keys := by
      rw [laidOut.keys]
      exact fresh
    have stored : planted.entries =
        (registry.scopes.entries document).entries ++ [(id, requested)] :=
      put_of_not_mem _ id requested absent
    have grown : ((addChild planted parent id).entries.map
        fun entry => (entry.1, entry.2.placement)) =
          planted.entries.map fun entry => (entry.1, entry.2.placement) := by
      cases parent with
      | none => rfl
      | some outer => exact map_placement_modify _ outer (by intro stored; rfl)
    show (registry.scopes.plant document requested).layout document = _
    rw [ScopeTree.layout, entries]
    refine grown.trans ?_
    rw [stored, List.map_append, ← laidOut.layout]
    rfl

/-- A new scope under a stored one, or under none, goes to the end of the layout. -/
theorem LaidOut.createScope
    (laidOut : registry.LaidOut document plan)
    {id : String}
    {kind : ScopeKind}
    {parent : Option String}
    (owner : Option String)
    (inner : kind ≠ .global)
    (fresh : id ∉ plan.map (·.1))
    (parentStored : ∀ outer, parent = some outer → outer ∈ plan.map (·.1)) :
    ∃ change, registry.createScope document (.fresh id kind parent owner) = .ok change ∧
      (∃ stored, change.result = some stored) ∧
      change.registry.LaidOut document (plan ++ [(id, kind, owner, parent)]) := by
  let requested : Scope := .fresh id kind parent owner
  have missing : (registry.scopes.entries document).get? id = none := laidOut.get?_eq_none fresh
  have admitted : registry.scopes.refusal? document requested = .ok none := by
    cases wanted : requested.parentId with
    | none => exact ScopeTree.refusal?_of_outermost wanted
    | some outer =>
        obtain ⟨scope, parentAt⟩ := laidOut.exists_get? parentStored outer wanted
        exact ScopeTree.refusal?_of_fresh wanted parentAt missing
  have settled :=
    (laidOut.plant owner inner fresh parentStored).syncMembers document (some id)
  obtain ⟨stored, storedAt, _⟩ :=
    settled.exists_stored (List.mem_append_right _ List.mem_cons_self)
  have created : registry.createScope document requested =
      .ok ((registry.withScopes (registry.scopes.plant document requested)).settleScope document id
        (.scopeCreated document
          ((registry.scopes.plant document requested).storedIn document requested))) := by
    rw [Registry.createScope, ScopeTree.create_eq_of_fresh inner admitted missing]
    rfl
  exact ⟨_, created, ⟨stored, storedAt⟩, settled⟩

/-- The place of a stored scope does not lie below the scope. -/
theorem parentClear_of_stored
    {scopes : ScopeEntries}
    (forest : Forest scopes)
    {id : String}
    {stored requested : Scope}
    (found : scopes.get? id = some stored)
    (same : requested.parentId = stored.parentId) :
    ScopeTree.ParentClear scopes requested id := by
  intro parent wanted
  have inside := (parentOf?_eq_some_iff scopes id _).mpr ⟨stored, found, same.symm.trans wanted⟩
  obtain ⟨outer, chain⟩ := forest.exists_parentChain inside
  cases chain with
  | top outermost => simp [inside] at outermost
  | under insideAgain chain =>
      rw [inside, Option.some.injEq, Option.some.injEq] at insideAgain
      subst insideAgain
      exact ⟨_, chain, (ScopeTree.ParentChain.under inside chain).not_mem_self⟩

/-- Moving a scope to where it is changes nothing of its placement. -/
theorem map_placement_uprooted
    {scopes : ScopeEntries}
    (distinct : scopes.Distinct)
    {stored requested : Scope}
    (found : scopes.get? stored.id = some stored)
    (same : requested.placement = stored.placement) :
    ((Forest.uprooted scopes stored requested).entries.map
        fun entry => (entry.1, entry.2.placement)) =
      scopes.entries.map fun entry => (entry.1, entry.2.placement) := by
  let left := ScopeTree.dropChild scopes stored.parentId stored.id
  have dropped : (left.entries.map fun entry => (entry.1, entry.2.placement)) =
      scopes.entries.map fun entry => (entry.1, entry.2.placement) := by
    cases parent : stored.parentId with
    | none => simp only [left, parent, ScopeTree.dropChild]
    | some outer =>
        simp only [left, parent, ScopeTree.dropChild]
        exact map_placement_modify scopes outer (by intro scope; rfl)
  rw [← dropped, Forest.uprooted, OrderedMap.modify, List.map_map]
  refine List.map_congr_left fun entry member => ?_
  rw [Function.comp_apply]
  split
  · rename_i here
    have kept : (entry.1, entry.2.placement) ∈
        scopes.entries.map fun entry => (entry.1, entry.2.placement) :=
      dropped ▸ List.mem_map_of_mem member
    obtain ⟨former, formerMember, alike⟩ := List.mem_map.mp kept
    obtain ⟨sameId, samePlacement⟩ := Prod.mk.inj alike
    have formerAt := (distinct.get?_eq_some_iff former.1 former.2).mpr formerMember
    rw [sameId, here, found, Option.some.injEq] at formerAt
    rw [← samePlacement, ← formerAt, ← same]
    rfl
  · rfl

theorem LaidOut.move
    (laidOut : registry.LaidOut document plan)
    {stored requested : Scope}
    (found : (registry.scopes.entries document).get? requested.id = some stored)
    (inner : requested.kind ≠ .global)
    (same : requested.placement = stored.placement) :
    (registry.withScopes (registry.scopes.move document stored requested)).LaidOut document
      plan := by
  have keyed := (laidOut.forest.proper _ stored found).keyed
  have parents : requested.parentId = stored.parentId :=
    congrArg (fun placement => placement.2.2) same
  have entries := registry.scopes.entries_move document document stored requested
  rw [if_pos rfl] at entries
  constructor
  case forest =>
    show Forest ((registry.scopes.move document stored requested).entries document)
    rw [entries, keyed]
    exact laidOut.forest.move found inner (parentClear_of_stored laidOut.forest found parents)
  case layout =>
    have linked : ((addChild (Forest.uprooted (registry.scopes.entries document) stored requested)
        requested.parentId stored.id).entries.map fun entry => (entry.1, entry.2.placement)) =
          (Forest.uprooted (registry.scopes.entries document) stored requested).entries.map
            fun entry => (entry.1, entry.2.placement) := by
      cases requested.parentId with
      | none => rfl
      | some outer => exact map_placement_modify _ outer (by intro scope; rfl)
    show (registry.scopes.move document stored requested).layout document = _
    rw [ScopeTree.layout, entries, linked,
      map_placement_uprooted laidOut.forest.distinct (keyed.symm ▸ found) same]
    exact laidOut.layout

/-- A scope that is laid out already stays where it is when it is created again. -/
theorem LaidOut.recreateScope
    (laidOut : registry.LaidOut document plan)
    {id : String}
    {kind : ScopeKind}
    {owner parent : Option String}
    (inner : kind ≠ .global)
    (planned : (id, kind, owner, parent) ∈ plan) :
    ∃ change, registry.createScope document (.fresh id kind parent owner) = .ok change ∧
      (∃ stored, change.result = some stored) ∧ change.registry.LaidOut document plan := by
  let requested : Scope := .fresh id kind parent owner
  obtain ⟨stored, found, keyed, sameKind, sameOwner, sameParent⟩ := laidOut.exists_stored planned
  have same : requested.placement = stored.placement := by
    simp [Scope.placement, requested, Scope.fresh, sameKind, sameOwner, sameParent]
  have clear := @parentClear_of_stored _ laidOut.forest id stored requested found sameParent.symm
  have admitted : registry.scopes.refusal? document requested = .ok none := by
    cases wanted : requested.parentId with
    | none => exact ScopeTree.refusal?_of_outermost wanted
    | some outer =>
        obtain ⟨further, chain, apart⟩ := clear outer wanted
        have clearOf : requested.id ∉ outer :: further := apart
        rw [ScopeTree.refusal?_of_stored wanted chain found, if_neg clearOf]
  have settled := (@LaidOut.move _ _ _ laidOut stored requested found inner same).syncMembers
    document (some id)
  obtain ⟨again, againAt, _⟩ := settled.exists_stored planned
  have created : registry.createScope document requested =
      .ok ((registry.withScopes (registry.scopes.move document stored requested)).settleScope
        document id (.scopeReparented document id
          ((registry.scopes.move document stored requested).storedIn document requested).parentId))
      := by
    rw [Registry.createScope, ScopeTree.create_eq_of_stored inner admitted found]
    rfl
  exact ⟨_, created, ⟨again, againAt⟩, settled⟩

end Registry

end LuauNodes
