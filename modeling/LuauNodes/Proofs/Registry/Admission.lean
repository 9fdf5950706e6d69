import LuauNodes.Proofs.Registry.Destruction
import LuauNodes.Proofs.Registry.Layout
import LuauNodes.Proofs.Registry.Locality

/-!
# Admission of scopes

Which requests to create a scope are met, and what becomes of the document.  A
request is turned down where its parent is not stored or where the scope would
come to lie below itself, and then nothing changes.  Else a scope that is not
stored goes to the end of the listing, and a stored one stays in its place with
everything below it and everything that it owns; of the other scopes nothing
changes but the children of the parent that loses it and of the one that gains
it.
-/

namespace LuauNodes

open ScopeTree (Forest ParentChain IsBelow adopt)

/-! ## Scopes that change with another one -/

/-- A scope that has gained a child, if it is the parent. -/
def Scope.gaining (parentId : Option String) (childId : String) (scope : Scope) : Scope :=
  if parentId = some scope.id then { scope with childIds := scope.childIds.insert childId }
  else scope

/-- A scope of the document once a scope has moved from where it was stored to its new place. -/
def Scope.afterMove (stored moved scope : Scope) : Scope :=
  if scope.id = moved.id then moved
  else (scope.losing stored.parentId moved.id).gaining moved.parentId moved.id

@[simp]
theorem Scope.id_losing (parentId : Option String) (childId : String) (scope : Scope) :
    (scope.losing parentId childId).id = scope.id := by
  unfold Scope.losing
  split <;> rfl

@[simp]
theorem Scope.id_gaining (parentId : Option String) (childId : String) (scope : Scope) :
    (scope.gaining parentId childId).id = scope.id := by
  unfold Scope.gaining
  split <;> rfl

theorem Scope.losing_of_ne
    {parentId : Option String}
    {scope : Scope}
    (apart : parentId ≠ some scope.id)
    (childId : String) :
    scope.losing parentId childId = scope :=
  if_neg apart

theorem Scope.gaining_of_ne
    {parentId : Option String}
    {scope : Scope}
    (apart : parentId ≠ some scope.id)
    (childId : String) :
    scope.gaining parentId childId = scope :=
  if_neg apart

theorem Scope.afterMove_self
    {stored moved : Scope}
    (same : stored.id = moved.id) :
    Scope.afterMove stored moved stored = moved :=
  if_pos same

namespace ScopeTree

variable {scopes : ScopeEntries}

/-- Every scope is stored at its own identifier. -/
def Keyed (scopes : ScopeEntries) : Prop := ∀ entry ∈ scopes.entries, entry.2.id = entry.1

theorem Keyed.mapValues
    (keyed : Keyed scopes)
    {f : Scope → Scope}
    (kept : ∀ scope, (f scope).id = scope.id) :
    Keyed (scopes.mapValues f) := by
  intro entry member
  obtain ⟨before, beforeMember, rfl⟩ := List.mem_map.mp member
  exact (kept before.2).trans (keyed before beforeMember)

theorem modify_eq_mapValues
    (keyed : Keyed scopes)
    (id : String)
    (f : Scope → Scope) :
    scopes.modify id f =
      scopes.mapValues fun scope => if scope.id = id then f scope else scope := by
  refine congrArg OrderedMap.mk (List.map_congr_left fun entry member => ?_)
  dsimp only
  rw [keyed entry member]
  split <;> rfl

theorem dropChild_eq_mapValues
    (keyed : Keyed scopes)
    (parentId : Option String)
    (childId : String) :
    dropChild scopes parentId childId = scopes.mapValues (Scope.losing parentId childId) :=
  congrArg OrderedMap.mk (entries_dropChild keyed parentId childId)

theorem addChild_eq_mapValues
    (keyed : Keyed scopes)
    (parentId : Option String)
    (childId : String) :
    addChild scopes parentId childId = scopes.mapValues (Scope.gaining parentId childId) := by
  cases parentId with
  | none => simp [addChild, Scope.gaining, OrderedMap.mapValues]
  | some parent =>
      rw [addChild, modify_eq_mapValues keyed]
      refine congrArg (OrderedMap.mapValues · scopes) (funext fun scope => ?_)
      simp only [Scope.gaining, Option.some.injEq, eq_comm]

end ScopeTree

namespace Registry

variable {registry : Registry} {document : String} {requested : Scope}

/-! ## Requests that are turned down -/

/-- A request for a parent that is not stored, or for one at or below the scope itself. -/
inductive Inadmissible (registry : Registry) (document : String) (requested : Scope) : Prop where
  | parentMissing
      {parent : String}
      (wanted : requested.parentId = some parent)
      (missing : registry.scopes.has document (some parent) = false)
  | cycle
      {parent : String}
      (wanted : requested.parentId = some parent)
      (stored : registry.scopes.has document (some requested.id) = true)
      (below : parent = requested.id ∨
        IsBelow (registry.scopes.entries document) requested.id parent)

/-- The parent of a stored scope neither is the scope nor lies below it. -/
theorem not_below_of_parentClear
    (forest : Forest (registry.scopes.entries document))
    {id parent : String}
    {outer : List String}
    (chain : ParentChain (registry.scopes.entries document) parent outer)
    (clear : id ∉ parent :: outer) :
    ¬(parent = id ∨ IsBelow (registry.scopes.entries document) id parent) := by
  rintro (rfl | below)
  · exact clear List.mem_cons_self
  · obtain ⟨around, again, member⟩ := (forest.isBelow_iff id parent).mp below
    rw [again.unique chain] at member
    exact clear (List.mem_cons_of_mem parent member)

/-- A new scope under a stored parent is admissible. -/
theorem not_inadmissible_of_fresh
    (fresh : (registry.scopes.entries document).get? requested.id = none)
    (parentStored : ScopeTree.ParentStored (registry.scopes.entries document) requested) :
    ¬registry.Inadmissible document requested := by
  rintro (⟨wanted, missing⟩ | ⟨wanted, stored, -⟩)
  · obtain ⟨scope, found⟩ := parentStored _ wanted
    rw [ScopeTree.has_some_eq_false_iff, found] at missing
    cases missing
  · rw [(ScopeTree.has_some_eq_false_iff _ document _).mpr fresh] at stored
    cases stored

/-- A stored scope may go wherever it does not come to lie below itself. -/
theorem not_inadmissible_of_clear
    (forest : Forest (registry.scopes.entries document))
    (parentClear :
      ScopeTree.ParentClear (registry.scopes.entries document) requested requested.id) :
    ¬registry.Inadmissible document requested := by
  rintro (⟨wanted, missing⟩ | ⟨wanted, -, below⟩)
  · obtain ⟨outer, chain, -⟩ := parentClear _ wanted
    obtain ⟨scope, found⟩ := chain.stored
    rw [ScopeTree.has_some_eq_false_iff, found] at missing
    cases missing
  · obtain ⟨outer, chain, clear⟩ := parentClear _ wanted
    exact not_below_of_parentClear forest chain clear below

/-- A scope that would lie below itself is not admissible. -/
theorem inadmissible_of_cycle
    (forest : Forest (registry.scopes.entries document))
    {parent : String}
    {stored : Scope}
    {outer : List String}
    (wanted : requested.parentId = some parent)
    (found : (registry.scopes.entries document).get? requested.id = some stored)
    (chain : ParentChain (registry.scopes.entries document) parent outer)
    (below : requested.id ∈ parent :: outer) :
    registry.Inadmissible document requested := by
  refine .cycle wanted ((ScopeTree.has_some_eq_true_iff _ document _).mpr ⟨stored, found⟩) ?_
  rcases List.mem_cons.mp below with here | further
  · exact Or.inl here.symm
  · exact Or.inr ((forest.isBelow_iff _ _).mpr ⟨outer, chain, further⟩)

/-! ## Requests that are met -/

/-- What holds of every scope that was created or moved. -/
structure Admits
    (registry : Registry)
    (document : String)
    (requested : Scope)
    (change : Change (Option Scope))
    (placed : Scope) : Prop where
  /-- The scope is where and what was requested. -/
  id : placed.id = requested.id
  parent : placed.parentId = requested.parentId
  kind : placed.kind = requested.kind
  owner : placed.ownerNodeId = requested.ownerNodeId
  /-- Look-up finds it. -/
  stored : change.registry.scopes.get? document (some requested.id) = some placed
  /-- The symbols stay, and so do the entered scopes. -/
  symbols : ∀ space, change.registry.table space = registry.table space
  active : change.registry.scopes.active = registry.scopes.active
  /-- Nothing changes in any other document. -/
  elsewhere : change.registry.without document = registry.without document

/-- What becomes of a document when a scope is new. -/
structure Plants
    (registry : Registry)
    (document : String)
    (change : Change (Option Scope))
    (placed : Scope) : Prop where
  /-- The scope has no children and no members yet. -/
  childless : placed.childIds = ∅
  memberless : placed.memberNames = ∅
  /-- It goes to the end of the listing, and of the others only the parent has changed: it has
  one child more. -/
  listing : change.registry.scopes.list document =
    (registry.scopes.list document).map (Scope.gaining placed.parentId placed.id) ++ [placed]
  /-- Look-up finds the scopes as they are listed. -/
  scopeAt : ∀ other, change.registry.scopes.get? document (some other) =
    if placed.id = other then some placed
    else (registry.scopes.get? document (some other)).map
      (Scope.gaining placed.parentId placed.id)

/-- What becomes of a document when a stored scope is requested again. -/
structure Moves
    (registry : Registry)
    (document : String)
    (change : Change (Option Scope))
    (stored placed : Scope) : Prop where
  /-- The scope keeps its children and its members. -/
  children : placed.childIds = stored.childIds
  members : ∀ name, name ∈ placed.memberNames ↔ name ∈ stored.memberNames
  /-- Every scope keeps its place in the listing, and of the others only the two parents have
  changed: one has a child less and one has a child more. -/
  listing : change.registry.scopes.list document =
    (registry.scopes.list document).map (Scope.afterMove stored placed)
  /-- Look-up finds the scopes as they are listed. -/
  scopeAt : ∀ other, change.registry.scopes.get? document (some other) =
    (registry.scopes.get? document (some other)).map (Scope.afterMove stored placed)
  /-- The same scopes lie below the scope, in the same order. -/
  subtree : change.registry.scopes.descendants document placed.id =
    registry.scopes.descendants document placed.id
  /-- None of them has changed. -/
  below : ∀ other ∈ registry.scopes.descendants document placed.id,
    change.registry.scopes.get? document (some other) =
      registry.scopes.get? document (some other)

/-- What a request to create a scope comes to. -/
structure AnswersCreation
    (registry : Registry)
    (document : String)
    (requested : Scope)
    (change : Change (Option Scope)) : Prop where
  /-- The request is turned down exactly where it is not admissible. -/
  refused : change.result = none ↔ registry.Inadmissible document requested
  /-- Then nothing changes, and nobody is told. -/
  unchanged : change.result = none → change.registry = registry ∧ change.events = []
  /-- Else the scope is where and what was requested. -/
  admitted : ∀ placed, change.result = some placed →
    registry.Admits document requested change placed
  /-- A scope that was not stored is new. -/
  planted : ∀ placed, change.result = some placed →
    registry.scopes.get? document (some requested.id) = none →
      registry.Plants document change placed
  /-- A stored scope moves. -/
  moved : ∀ placed stored, change.result = some placed →
    registry.scopes.get? document (some requested.id) = some stored →
      registry.Moves document change stored placed

/-! ## What is stored -/

/-- The registry once a tree with a new or moved scope has taken the place of its scopes. -/
def settled (registry : Registry) (document : String) (id : String) (tree : ScopeTree) : Registry :=
  (registry.withScopes tree).syncMembers document (some id)

/-- The scope of a request as it is stored, with the given children and the names that it owns. -/
def placing
    (registry : Registry)
    (document : String)
    (requested : Scope)
    (children : NameSet) :
    Scope :=
  { requested with
    childIds := children
    memberNames := registry.memberNames document (some requested.id) }

theorem entries_settled_plant
    (forest : Forest (registry.scopes.entries document))
    (fresh : (registry.scopes.entries document).get? requested.id = none)
    (parentStored : ScopeTree.ParentStored (registry.scopes.entries document) requested) :
    (registry.settled document requested.id
        (registry.scopes.plant document requested)).scopes.entries document =
      ((registry.scopes.entries document).mapValues
        (Scope.gaining requested.parentId requested.id)).insert requested.id
          (registry.placing document requested ∅) := by
  let scopes := registry.scopes.entries document
  let bare : Scope := { requested with childIds := ∅ }
  have outside : bare.parentId ≠ some bare.id := by
    intro itself
    obtain ⟨scope, found⟩ := parentStored requested.id itself
    rw [fresh] at found
    cases found
  have keyed : ScopeTree.Keyed (Forest.planted scopes requested) := by
    intro entry member
    rcases OrderedMap.mem_put member with rfl | before
    · rfl
    · exact forest.keyed_of_mem before
  have planted : (registry.scopes.plant document requested).entries document =
      (scopes.mapValues (Scope.gaining requested.parentId requested.id)).insert requested.id
        bare := by
    rw [ScopeTree.entries_plant, if_pos rfl, ScopeTree.addChild_eq_mapValues keyed,
      Forest.planted, ← OrderedMap.insert_mapValues]
    exact congrArg _ (Scope.gaining_of_ne outside requested.id)
  have absent : (scopes.mapValues (Scope.gaining requested.parentId requested.id)).get?
      requested.id = none := by
    rw [OrderedMap.get?_mapValues, fresh]
    rfl
  have stored : ((registry.withScopes (registry.scopes.plant document requested)).scopes.entries
      document).get? requested.id = some bare := by
    show ((registry.scopes.plant document requested).entries document).get? requested.id = _
    rw [planted, OrderedMap.get?_insert, if_pos rfl]
  rw [settled, entries_syncMembers stored rfl, if_pos rfl]
  show ((registry.scopes.plant document requested).entries document).modify requested.id _ = _
  rw [planted, OrderedMap.modify_insert_of_get?_eq_none absent]
  rfl

/-- The scope of a request as a move leaves it, before its names are brought up to date. -/
def moving (stored requested scope : Scope) : Scope :=
  let left := scope.losing stored.parentId requested.id
  (if left.id = requested.id then adopt left requested else left).gaining requested.parentId
    requested.id

theorem id_moving (stored requested scope : Scope) :
    (moving stored requested scope).id = scope.id := by
  rw [moving, Scope.id_gaining]
  split
  · exact Scope.id_losing _ _ _
  · exact Scope.id_losing _ _ _

theorem entries_move_eq_mapValues
    {tree : ScopeTree}
    (forest : Forest (tree.entries document))
    {stored : Scope}
    (found : (tree.entries document).get? requested.id = some stored) :
    (tree.move document stored requested).entries document =
      (tree.entries document).mapValues (moving stored requested) := by
  have own : stored.id = requested.id := (forest.proper _ stored found).keyed
  have keyed : ScopeTree.Keyed (tree.entries document) := fun _ member => forest.keyed_of_mem member
  have lost := keyed.mapValues (Scope.id_losing stored.parentId requested.id)
  have adopted := lost.mapValues
    (f := fun scope => if scope.id = requested.id then adopt scope requested else scope)
    (by intro scope; split <;> rfl)
  rw [ScopeTree.entries_move, if_pos rfl, Forest.uprooted, own,
    ScopeTree.dropChild_eq_mapValues keyed, ScopeTree.modify_eq_mapValues lost,
    ScopeTree.addChild_eq_mapValues adopted, OrderedMap.mapValues_mapValues,
    OrderedMap.mapValues_mapValues]
  rfl

/-- Neither the old parent of a moved scope nor the new one is the scope itself. -/
structure ParentsApart (stored requested : Scope) : Prop where
  own : stored.id = requested.id
  old : stored.parentId ≠ some requested.id
  new : requested.parentId ≠ some requested.id

theorem moving_self
    {stored : Scope}
    (apart : ParentsApart stored requested) :
    moving stored requested stored = adopt stored requested := by
  have left : stored.losing stored.parentId requested.id = stored :=
    Scope.losing_of_ne (apart.own.symm ▸ apart.old) requested.id
  have place : requested.parentId ≠ some (adopt stored requested).id := by
    show requested.parentId ≠ some stored.id
    rw [apart.own]
    exact apart.new
  rw [moving, left, if_pos apart.own, Scope.gaining_of_ne place]

theorem moving_of_ne
    {stored scope : Scope}
    (other : scope.id ≠ requested.id) :
    moving stored requested scope =
      (scope.losing stored.parentId requested.id).gaining requested.parentId requested.id := by
  rw [moving, Scope.id_losing, if_neg other]

theorem entries_settled_move
    (forest : Forest (registry.scopes.entries document))
    {stored : Scope}
    (found : (registry.scopes.entries document).get? requested.id = some stored)
    (apart : ParentsApart stored requested) :
    (registry.settled document requested.id
        (registry.scopes.move document stored requested)).scopes.entries document =
      (registry.scopes.entries document).mapValues
        (Scope.afterMove stored (registry.placing document requested stored.childIds)) := by
  have keyed : ScopeTree.Keyed (registry.scopes.entries document) :=
    fun _ member => forest.keyed_of_mem member
  have moved := entries_move_eq_mapValues forest found
  let tree := registry.scopes.move document stored requested
  have present : ((registry.withScopes tree).scopes.entries document).get? requested.id =
      some (moving stored requested stored) := by
    show (tree.entries document).get? requested.id = _
    rw [moved, OrderedMap.get?_mapValues, found]
    rfl
  rw [settled, entries_syncMembers present ((id_moving _ _ _).trans apart.own), if_pos rfl]
  show (tree.entries document).modify requested.id _ = _
  rw [moved, ScopeTree.modify_eq_mapValues (keyed.mapValues (id_moving stored requested)),
    OrderedMap.mapValues_mapValues]
  refine congrArg OrderedMap.mk (List.map_congr_left fun entry member => ?_)
  refine congrArg (Prod.mk entry.1) ?_
  rw [Function.comp_apply, id_moving, Scope.afterMove]
  show _ = if entry.2.id = requested.id then _ else _
  -- The scope itself is neither of the parents, so that only the request changes it.
  by_cases here : entry.2.id = requested.id
  · have same : entry.2 = stored := by
      have entryAt := (forest.distinct.get?_eq_some_iff entry.1 entry.2).mpr member
      rw [← keyed entry member, here, found] at entryAt
      exact (Option.some.inj entryAt).symm
    rw [if_pos here, if_pos here, same, moving_self apart]
    show Scope.mk stored.id _ _ _ _ _ = Scope.mk requested.id _ _ _ _ _
    rw [apart.own]
    rfl
  · rw [if_neg here, if_neg here, moving_of_ne here]
    rfl

theorem active_settled
    {tree : ScopeTree}
    (same : tree.active = registry.scopes.active)
    (id : String) :
    (registry.settled document id tree).scopes.active = registry.scopes.active := by
  show (tree.setMembers document (some id) _).active = _
  unfold ScopeTree.setMembers
  split
  · exact same
  · exact (ScopeTree.active_setEntries _ _ _).trans same

theorem table_settled (tree : ScopeTree) (id : String) (space : Namespace) :
    (registry.settled document id tree).table space = registry.table space := by
  rw [settled, table_syncMembers, table_withScopes]

/-- A scope that is not stored owns no symbols. -/
theorem ConsistentAt.memberNames_eq_empty
    {pending : List (Option String)}
    (consistent : registry.ConsistentAt document pending)
    {id : String}
    (fresh : (registry.scopes.entries document).get? id = none) :
    registry.memberNames document (some id) = ∅ := by
  have none : ∀ name, name ∉ registry.memberNames document (some id) := by
    intro name member
    obtain ⟨space, present⟩ := (enrolled_memberNames consistent.owned id name).mp member
    obtain ⟨symbol, found⟩ := Option.isSome_iff_exists.mp present
    have placed := (consistent.owned space).placed _ symbol found
    obtain ⟨scope, stored⟩ := placed.owner id (congrArg SymbolKey.scopeId placed.keyed)
    rw [fresh] at stored
    cases stored
  exact congrArg NameSet.mk (List.eq_nil_iff_forall_not_mem.mpr none)

theorem ConsistentAt.plants
    {pending : List (Option String)}
    (consistent : registry.ConsistentAt document pending)
    (fresh : (registry.scopes.entries document).get? requested.id = none)
    (parentStored : ScopeTree.ParentStored (registry.scopes.entries document) requested)
    {change : Change (Option Scope)}
    (changed : change.registry = registry.settled document requested.id
      (registry.scopes.plant document requested)) :
    registry.Plants document change (registry.placing document requested ∅) := by
  have entries := entries_settled_plant consistent.forest fresh parentStored
  have absent : ((registry.scopes.entries document).mapValues
      (Scope.gaining requested.parentId requested.id)).get? requested.id = none := by
    rw [OrderedMap.get?_mapValues, fresh]
    rfl
  constructor
  case childless => rfl
  case memberless => exact consistent.memberNames_eq_empty fresh
  case listing =>
    rw [changed, ScopeTree.list, entries, OrderedMap.values_insert_of_get?_eq_none absent,
      OrderedMap.values_mapValues]
    rfl
  case scopeAt =>
    intro other
    rw [changed, ScopeTree.get?, Option.bind_some, entries, OrderedMap.get?_insert,
      OrderedMap.get?_mapValues]
    rfl

/-- What lies below a moved scope has neither parent among it. -/
theorem afterMove_of_below
    (forest : Forest (registry.scopes.entries document))
    {stored moved scope : Scope}
    (oldClear : ScopeTree.ParentClear (registry.scopes.entries document) stored moved.id)
    (newClear : ScopeTree.ParentClear (registry.scopes.entries document) moved moved.id)
    (below : IsBelow (registry.scopes.entries document) moved.id scope.id) :
    Scope.afterMove stored moved scope = scope := by
  have other : scope.id ≠ moved.id := by
    intro same
    rw [same] at below
    obtain ⟨outer, chain, member⟩ := (forest.isBelow_iff _ _).mp below
    exact chain.not_mem_self member
  have unrelated : ∀ place : Scope,
      ScopeTree.ParentClear (registry.scopes.entries document) place moved.id →
        place.parentId ≠ some scope.id := by
    intro place clear wanted
    obtain ⟨outer, chain, absent⟩ := clear _ wanted
    exact not_below_of_parentClear forest chain absent (Or.inr below)
  rw [Scope.afterMove, if_neg other, Scope.losing_of_ne (unrelated stored oldClear),
    Scope.gaining_of_ne (unrelated moved newClear)]

theorem Consistent.moves
    (consistent : registry.Consistent)
    {stored : Scope}
    (found : (registry.scopes.entries document).get? requested.id = some stored)
    (parentClear :
      ScopeTree.ParentClear (registry.scopes.entries document) requested requested.id)
    {change : Change (Option Scope)}
    (changed : change.registry = registry.settled document requested.id
      (registry.scopes.move document stored requested)) :
    registry.Moves document change stored
      (registry.placing document requested stored.childIds) := by
  have here := consistent document
  have forest := here.forest
  let placed := registry.placing document requested stored.childIds
  have oldClear : ScopeTree.ParentClear (registry.scopes.entries document) stored requested.id :=
    parentClear_of_stored forest found rfl
  have apart : ParentsApart stored requested := by
    refine ⟨(forest.proper _ stored found).keyed, ?_, ?_⟩
    · intro itself
      obtain ⟨outer, -, absent⟩ := oldClear _ itself
      exact absent List.mem_cons_self
    · intro itself
      obtain ⟨outer, -, absent⟩ := parentClear _ itself
      exact absent List.mem_cons_self
  have entries := entries_settled_move forest found apart
  have scopeAt : ∀ other, change.registry.scopes.get? document (some other) =
      (registry.scopes.get? document (some other)).map (Scope.afterMove stored placed) := by
    intro other
    rw [changed, ScopeTree.get?, Option.bind_some, entries, OrderedMap.get?_mapValues]
    rfl
  have before : registry.scopes.get? document (some requested.id) = some stored := found
  have untouched : ∀ other, IsBelow (registry.scopes.entries document) requested.id other →
      change.registry.scopes.get? document (some other) =
        registry.scopes.get? document (some other) := by
    intro other below
    rw [scopeAt]
    cases otherAt : registry.scopes.get? document (some other) with
    | none => rfl
    | some scope =>
        have keyed : scope.id = other := (forest.proper other scope otherAt).keyed
        subst keyed
        exact congrArg some (afterMove_of_below forest oldClear parentClear below)
  constructor
  case children => rfl
  case members =>
    intro name
    rw [here.enrolled _ stored found List.not_mem_nil name]
    exact enrolled_memberNames here.owned requested.id name
  case listing =>
    rw [changed, ScopeTree.list, entries, OrderedMap.values_mapValues]
    rfl
  case scopeAt => exact scopeAt
  case subtree =>
    -- Only the two parents have other children than before, and neither is the scope or below it.
    refine ScopeTree.descendants_congr _ ?_
    rintro other (rfl | below)
    · have itself := scopeAt requested.id
      have own : stored.id = placed.id := apart.own
      rw [before, Option.map_some, Scope.afterMove_self own] at itself
      show (change.registry.scopes.get? document (some requested.id)).map Scope.childIds =
        (registry.scopes.get? document (some requested.id)).map Scope.childIds
      rw [itself, before]
      rfl
    · exact congrArg (Option.map Scope.childIds) (untouched other below)
  case below =>
    intro other member
    exact untouched other
      ((ScopeTree.mem_descendants_iff _ other).mp member)

theorem admits_placing
    {tree : ScopeTree}
    (active : tree.active = registry.scopes.active)
    (children : NameSet)
    {change : Change (Option Scope)}
    (changed : change.registry = registry.settled document requested.id tree)
    (stored : change.registry.scopes.get? document (some requested.id) =
      some (registry.placing document requested children))
    (elsewhere : change.registry.without document = registry.without document) :
    registry.Admits document requested change (registry.placing document requested children) where
  id := rfl
  parent := rfl
  kind := rfl
  owner := rfl
  stored := stored
  symbols := by
    intro space
    rw [changed]
    exact table_settled tree requested.id space
  active := by
    rw [changed]
    exact active_settled active requested.id
  elsewhere := elsewhere

/-- A request that is not admissible changes nothing. -/
theorem Inadmissible.answersCreation
    (inadmissible : registry.Inadmissible document requested)
    (notices : List Notice) :
    registry.AnswersCreation document requested (registry.unchanged none notices) where
  refused := ⟨fun _ => inadmissible, fun _ => rfl⟩
  unchanged := fun _ => ⟨rfl, rfl⟩
  admitted := by
    intro placed result
    cases result
  planted := by
    intro placed result
    cases result
  moved := by
    intro placed stored result
    cases result

/-- A request that is met leaves a scope that was created or moved. -/
theorem answersCreation_of_met
    {change : Change (Option Scope)}
    {placed : Scope}
    (admissible : ¬registry.Inadmissible document requested)
    (result : change.result = some placed)
    (admits : registry.Admits document requested change placed)
    (plants : registry.scopes.get? document (some requested.id) = none →
      registry.Plants document change placed)
    (moves : ∀ stored, registry.scopes.get? document (some requested.id) = some stored →
      registry.Moves document change stored placed) :
    registry.AnswersCreation document requested change := by
  have only : ∀ other, change.result = some other → other = placed := by
    intro other found
    rw [result] at found
    exact (Option.some.inj found).symm
  have met : change.result ≠ none := by
    rw [result]
    exact Option.some_ne_none placed
  constructor
  case refused => exact ⟨fun none => absurd none met, fun against => absurd against admissible⟩
  case unchanged => exact fun none => absurd none met
  case admitted =>
    intro other found
    rw [only other found]
    exact admits
  case planted =>
    intro other found fresh
    rw [only other found]
    exact plants fresh
  case moved =>
    intro other stored found storedAt
    rw [only other found]
    exact moves stored storedAt

/-- Every request for a scope but the global one is answered as it should be. -/
theorem Consistent.answersCreation
    (consistent : registry.Consistent)
    (inner : requested.kind ≠ .global) :
    ∃ change, registry.createScope document requested = .ok change ∧
      registry.AnswersCreation document requested change := by
  have here := consistent document
  obtain ⟨creation, created, settles⟩ := ScopeTree.create_settles here.forest inner
  cases settles with
  | parentMissing wanted missing =>
      have absent := (ScopeTree.has_some_eq_false_iff _ _ _).mpr missing
      exact ⟨_, by rw [Registry.createScope, created],
        Inadmissible.answersCreation (.parentMissing wanted absent) _⟩
  | cycle wanted found chain below =>
      exact ⟨_, by rw [Registry.createScope, created],
        (inadmissible_of_cycle here.forest wanted found chain below).answersCreation _⟩
  | created fresh parentStored =>
      let tree := registry.scopes.plant document requested
      let change := (registry.withScopes tree).settleScope document requested.id
        (.scopeCreated document (tree.storedIn document requested))
      have answered : registry.createScope document requested = .ok change := by
        rw [Registry.createScope, created]
        rfl
      have plants : registry.Plants document change (registry.placing document requested ∅) :=
        here.plants fresh parentStored rfl
      have result := (plants.scopeAt requested.id).trans (if_pos rfl)
      refine ⟨change, answered, answersCreation_of_met
        (not_inadmissible_of_fresh fresh parentStored) result
        (admits_placing (ScopeTree.active_setEntries _ _ _) ∅ rfl result
          (changesOnly_createScope answered).elsewhere) (fun _ => plants) ?_⟩
      intro stored found
      have absent : registry.scopes.get? document (some requested.id) = none := fresh
      rw [absent] at found
      cases found
  | @moved stored found parentClear =>
      let tree := registry.scopes.move document stored requested
      let change := (registry.withScopes tree).settleScope document requested.id
        (.scopeReparented document requested.id (tree.storedIn document requested).parentId)
      have answered : registry.createScope document requested = .ok change := by
        rw [Registry.createScope, created]
        rfl
      have moves : registry.Moves document change stored
          (registry.placing document requested stored.childIds) :=
        consistent.moves found parentClear rfl
      have storedAt : registry.scopes.get? document (some requested.id) = some stored := found
      have own : stored.id = (registry.placing document requested stored.childIds).id :=
        (here.forest.proper _ stored found).keyed
      have result := moves.scopeAt requested.id
      rw [storedAt, Option.map_some, Scope.afterMove_self own] at result
      refine ⟨change, answered, answersCreation_of_met
        (not_inadmissible_of_clear here.forest parentClear) result
        (admits_placing (ScopeTree.active_setEntries _ _ _) stored.childIds rfl result
          (changesOnly_createScope answered).elsewhere) ?_ ?_⟩
      · intro absent
        rw [storedAt] at absent
        cases absent
      · intro other otherAt
        rw [storedAt] at otherAt
        cases otherAt
        exact moves

end Registry

/-- In every registry that some run comes to, a request for a scope is turned down exactly where
its parent is not stored or lies at or below the scope; else the scope is created, or moves with
everything that it has, and of the others only its parents change. -/
theorem Registry.Reachable.createScope_exact
    {registry : Registry}
    (reachable : registry.Reachable)
    (document : String)
    {requested : Scope}
    (inner : requested.kind ≠ .global) :
    ∃ change, registry.createScope document requested = .ok change ∧
      registry.AnswersCreation document requested change :=
  reachable.consistent.answersCreation inner

/-- A function body is asked to move into the loop inside it. -/
theorem Registry.createScope_exact_while_shadowing :
    (Dispatch.asking Operation.shadowing).registry.Reachable ∧
      (Scope.fresh "body" .function (some "loop") none).kind ≠ .global ∧
      ∃ change,
        (Dispatch.asking Operation.shadowing).registry.createScope "main"
            (.fresh "body" .function (some "loop") none) = .ok change ∧
          (Dispatch.asking Operation.shadowing).registry.AnswersCreation "main"
            (.fresh "body" .function (some "loop") none) change :=
  ⟨(Dispatch.reachable_asking Operation.shadowing).registry,
    by decide,
    Registry.Reachable.createScope_exact
      (Dispatch.reachable_asking Operation.shadowing).registry "main" (by decide)⟩

end LuauNodes
