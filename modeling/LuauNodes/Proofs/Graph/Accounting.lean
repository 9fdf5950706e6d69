import LuauNodes.Proofs.Graph.Mirroring
import LuauNodes.Proofs.Registry.GlobalSymbols

/-!
# What an analysis has to give back

While an analysis is under way it can account for everything that its document
holds: every scope is the live mount of an owner, and every global symbol the
entry of the binding of a node.  Other documents are as they were at the start,
and no scope of the document is active.
-/

namespace LuauNodes

open OrderedMap

/-! ## Registries in which one document is changed -/

namespace Registry

/-- Since the start a run has changed nothing but one document, of which no scope is active. -/
structure Confined (document : String) (start registry : Registry) : Prop where
  reachable : registry.Reachable
  elsewhere : registry.without document = start.without document
  inactive : registry.scopes.stack document = []

variable {document : String} {start registry : Registry}

theorem Confined.consistentAt (confined : Confined document start registry) :
    registry.ConsistentAt document [] :=
  confined.reachable.consistent document

theorem Confined.declare
    (confined : Confined document start registry)
    (space : Namespace)
    (symbol : Symbol) :
    Confined document start (registry.declare space document symbol).registry where
  reachable := confined.reachable.of_effect (.declare space document symbol) rfl
  elsewhere := (changesOnly_declare space symbol).elsewhere.trans confined.elsewhere
  inactive := (stack_declare registry space document symbol).trans confined.inactive

theorem Confined.remove
    (confined : Confined document start registry)
    (space : Namespace)
    (name : String)
    (scopeId : Option String) :
    Confined document start (registry.remove space document name scopeId).registry where
  reachable := confined.reachable.of_effect (.remove space document name scopeId) rfl
  elsewhere := (changesOnly_remove space name scopeId).elsewhere.trans confined.elsewhere
  inactive := (stack_remove registry space document name scopeId).trans confined.inactive

theorem Confined.createScope
    (confined : Confined document start registry)
    {scope : Scope}
    {change : Change (Option Scope)}
    (created : registry.createScope document scope = .ok change) :
    Confined document start change.registry where
  reachable := by
    have accepted : (Operation.createScope document scope).effect registry =
        .ok (change.registry, change.events) := by
      rw [Operation.effect, created]
      rfl
    exact confined.reachable.of_effect _ accepted
  elsewhere := (changesOnly_createScope created).elsewhere.trans confined.elsewhere
  inactive := (stack_createScope created).trans confined.inactive

theorem Confined.destroyScope
    (confined : Confined document start registry)
    (id : String) :
    Confined document start (registry.destroyScope document id).registry where
  reachable := confined.reachable.of_effect (.destroyScope document id) rfl
  elsewhere := (changesOnly_destroyScope id).elsewhere.trans confined.elsewhere
  inactive := confined.consistentAt.stack_destroyScope confined.inactive id

theorem Bare.confined
    (bare : start.Bare document)
    (reachable : start.Reachable) :
    Confined document start start :=
  ⟨reachable, rfl, (reachable.tidyAt document).stack_eq_nil bare⟩

/-! ## Symbols that bindings keep -/

/-- The bindings at some places are bindings of the document, and every global symbol of the
document is the entry of one of them. -/
structure Bound
    (document : String)
    (places : List Nat)
    (bindings : List Binding)
    (registry : Registry) :
    Prop where
  own : ∀ place ∈ places, ∃ binding, bindings[place]? = some binding ∧ binding.document = document
  globals : ∀ space name, registry.HasGlobal document space name →
    ∃ place ∈ places, bindings[place]? = some ⟨space, document, none, some name⟩

variable {place : Nat} {places : List Nat} {bindings : List Binding} {binding : Binding}

theorem Bound.of_globals
    {after : Registry}
    (bound : Bound document places bindings registry)
    (fewer : ∀ space name, after.HasGlobal document space name →
      registry.HasGlobal document space name) :
    Bound document places bindings after :=
  ⟨bound.own, fun space name held => bound.globals space name (fewer space name held)⟩

/-- Symbols that a scope owns need no binding. -/
theorem Bound.declareOwned
    (bound : Bound document places bindings registry)
    (space : Namespace)
    {symbol : Symbol}
    {id : String}
    (owned : symbol.scopeId = some id) :
    Bound document places bindings (registry.declare space document symbol).registry := by
  refine bound.of_globals fun other name held => ?_
  rcases hasGlobal_of_declare held with before | ⟨-, outside, -⟩
  · exact before
  · rw [owned] at outside
    cases outside

/-- A binding without an entry need not be looked at. -/
theorem Bound.tail
    (bound : Bound document (place :: places) bindings registry)
    (found : bindings[place]? = some binding)
    (bare : binding.name = none) :
    Bound document places bindings registry where
  own := fun other among => bound.own other (List.mem_cons_of_mem place among)
  globals := by
    intro space name held
    obtain ⟨other, among, kept⟩ := bound.globals space name held
    rcases List.mem_cons.mp among with rfl | later
    · rw [found, Option.some.injEq] at kept
      subst kept
      cases bare
    · exact ⟨other, later, kept⟩

/-- Bindings of which one has a new name. -/
def renameAt (bindings : List Binding) (place : Nat) (name : Option String) : List Binding :=
  bindings.modify place fun binding => { binding with name := name }

theorem getElem?_renameAt
    (bindings : List Binding)
    (place other : Nat)
    (name : Option String) :
    (renameAt bindings place name)[other]? =
      (bindings[other]?).map fun binding =>
        if place = other then { binding with name := name } else binding :=
  List.getElem?_modify _ _ _ _

theorem Bound.own_renameAt
    (bound : Bound document places bindings registry)
    (place : Nat)
    (name : Option String) :
    ∀ other ∈ places, ∃ binding, (renameAt bindings place name)[other]? = some binding ∧
      binding.document = document := by
  intro other among
  obtain ⟨binding, found, here⟩ := bound.own other among
  rw [getElem?_renameAt, found]
  refine ⟨_, rfl, ?_⟩
  split <;> exact here

/-- A binding whose entry is removed keeps none. -/
theorem Bound.remove
    (bound : Bound document places bindings registry)
    {old : String}
    (found : bindings[place]? = some binding)
    (named : binding.name = some old) :
    Bound document places (renameAt bindings place none)
      (registry.remove binding.space document old binding.scopeId).registry where
  own := bound.own_renameAt place none
  globals := by
    intro space name held
    obtain ⟨before, apart⟩ := hasGlobal_of_remove held
    obtain ⟨other, among, kept⟩ := bound.globals space name before
    refine ⟨other, among, ?_⟩
    have elsewhere : place ≠ other := by
      rintro rfl
      rw [found, Option.some.injEq] at kept
      subst kept
      exact apart ⟨rfl, rfl, (Option.some.inj named).symm⟩
    rw [getElem?_renameAt, kept, Option.map_some, if_neg elsewhere]

/-- A binding takes over the name of what is stored for it. -/
theorem Bound.declare
    (bound : Bound document places bindings registry)
    {symbol : Symbol}
    (among : place ∈ places)
    (found : bindings[place]? = some binding)
    (own : binding.document = document)
    (inside : symbol.scopeId = binding.scopeId)
    (visible : Text.isBlankText symbol.name = false)
    (same : ∀ old, binding.name = some old → old = symbol.name) :
    let change := registry.declare binding.space document symbol
    Bound document places (renameAt bindings place (change.result.map Symbol.name))
      change.registry where
  own := bound.own_renameAt place _
  globals := by
    intro space name held
    -- A symbol of the binding is kept there, and every other one where it was.
    have here : binding.scopeId = none →
        (renameAt bindings place ((registry.declare binding.space document symbol).result.map
          Symbol.name))[place]? = some ⟨binding.space, document, none, some symbol.name⟩ := by
      intro outside
      rw [getElem?_renameAt, found, Option.map_some, if_pos rfl,
        result_declare_of_global visible (inside.trans outside), own, outside]
    rcases hasGlobal_of_declare held with before | ⟨rfl, outside, rfl⟩
    · obtain ⟨other, otherAmong, kept⟩ := bound.globals space name before
      refine ⟨other, otherAmong, ?_⟩
      by_cases elsewhere : place = other
      · subst elsewhere
        rw [found, Option.some.injEq] at kept
        subst kept
        rw [same name rfl]
        exact here rfl
      · rw [getElem?_renameAt, kept, Option.map_some, if_neg elsewhere]
    · exact ⟨place, among, here (inside.symm.trans outside)⟩

theorem Bound.addBinding
    (bound : Bound document places bindings registry)
    (space : Namespace)
    (scopeId : Option String) :
    Bound document (places ++ [bindings.length])
      (bindings ++ [⟨space, document, scopeId, none⟩]) registry where
  own := by
    intro place among
    rcases List.mem_append.mp among with before | last
    · obtain ⟨binding, found, own⟩ := bound.own place before
      obtain ⟨short, -⟩ := List.getElem?_eq_some_iff.mp found
      exact ⟨binding, (List.getElem?_append_left short).trans found, own⟩
    · rw [List.mem_singleton.mp last]
      exact ⟨_, List.getElem?_concat_length, rfl⟩
  globals := by
    intro other name held
    obtain ⟨place, among, kept⟩ := bound.globals other name held
    obtain ⟨short, -⟩ := List.getElem?_eq_some_iff.mp kept
    exact ⟨place, List.mem_append_left _ among, (List.getElem?_append_left short).trans kept⟩

theorem Bare.bound (bare : start.Bare document) (bindings : List Binding) :
    Bound document [] bindings start where
  own := fun place among => by cases among
  globals := fun space name held => (bare.not_hasGlobal space name held).elim

end Registry

/-! ## Scopes that mounts hold -/

/-- A mount holds the scope with an identifier. -/
structure Mount.Holds (mount : Mount) (document id : String) : Prop where
  document : mount.document = document
  scopeId : mount.scopeId = id
  mounted : mount.mounted = true

/-- There are mounts at some places, and all are of the document. -/
def Mount.AllOf (document : String) (places : List Nat) (mounts : List Mount) : Prop :=
  ∀ place ∈ places, ∃ mount, mounts[place]? = some mount ∧ mount.document = document

theorem Mount.AllOf.tail
    {document : String}
    {place : Nat}
    {places : List Nat}
    {mounts : List Mount}
    (all : Mount.AllOf document (place :: places) mounts) :
    Mount.AllOf document places mounts :=
  fun other among => all other (List.mem_cons_of_mem place among)

theorem Mount.AllOf.modify
    {document : String}
    {places : List Nat}
    {mounts : List Mount}
    (all : Mount.AllOf document places mounts)
    (place : Nat)
    {f : Mount → Mount}
    (same : ∀ mount, (f mount).document = mount.document) :
    Mount.AllOf document places (mounts.modify place f) := by
  intro other among
  obtain ⟨mount, found, own⟩ := all other among
  rw [List.getElem?_modify, found]
  refine ⟨_, rfl, ?_⟩
  split
  · exact (same mount).trans own
  · exact own

namespace Graph

/-- Owners with one identifier have scopes of one kind. -/
def SingleScoped (owners : List (GraphNode × ScopeKind)) : Prop :=
  ∀ owner ∈ owners, ∀ other ∈ owners, owner.1.id = other.1.id → owner.2 = other.2

theorem DistinctOwners.singleScoped
    {owners : List (GraphNode × ScopeKind)}
    (distinct : DistinctOwners owners) :
    SingleScoped owners :=
  fun _ member _ otherMember same =>
    congrArg Prod.snd (List.inj_on_of_nodup_map distinct member otherMember same)

theorem SingleScoped.of_append
    {done rest : List (GraphNode × ScopeKind)}
    (single : SingleScoped (done ++ rest)) :
    SingleScoped done :=
  fun owner member other otherMember =>
    single owner (List.mem_append_left rest member) other (List.mem_append_left rest otherMember)

/-- Where the scope of an owner goes. -/
def placementOf (members : Membership) (owner : GraphNode × ScopeKind) :
    String × ScopeKind × Option String × Option String :=
  (scopeIdFor owner.1.id owner.2, owner.2, some owner.1.id, members.scopeOf owner.1.id)

/-- The layout is made of the scopes of some owners. -/
structure Planned
    (members : Membership)
    (done : List (GraphNode × ScopeKind))
    (plan : Layout) :
    Prop where
  sound : ∀ entry ∈ plan, ∃ owner ∈ done, entry = placementOf members owner
  complete : ∀ owner ∈ done, placementOf members owner ∈ plan

/-- Every one of some owners has a mount that holds its scope, and all mounts are of the
document. -/
structure Mounted
    (document : String)
    (done : List (GraphNode × ScopeKind))
    (listed : OrderedMap String Nat)
    (mounts : List Mount) :
    Prop where
  held : ∀ owner ∈ done, ∃ place mount, listed.get? owner.1.id = some place ∧
    mounts[place]? = some mount ∧ mount.Holds document (scopeIdFor owner.1.id owner.2)
  own : Mount.AllOf document listed.values mounts

variable {members later : Membership} {done : List (GraphNode × ScopeKind)} {plan : Layout}
variable {owner : GraphNode × ScopeKind}

theorem planned_nil (members : Membership) : Planned members [] [] where
  sound := by
    intro entry member
    cases member
  complete := by
    intro owner member
    cases member

/-- An owner whose scope is planned already is planned where it is. -/
theorem Planned.again
    (planned : Planned members done plan)
    (single : SingleScoped (done ++ [owner]))
    {other : GraphNode × ScopeKind}
    (member : other ∈ done)
    (same : other.1.id = owner.1.id) :
    placementOf members owner ∈ plan ∧ Planned members (done ++ [owner]) plan := by
  have kind : other.2 = owner.2 :=
    single other (List.mem_append_left _ member) owner (by simp) same
  have alike : placementOf members owner = placementOf members other := by
    rw [placementOf, placementOf, kind, same]
  have among : placementOf members owner ∈ plan := alike ▸ planned.complete other member
  refine ⟨among, ?_, ?_⟩
  · intro entry inPlan
    obtain ⟨first, firstMember, rfl⟩ := planned.sound entry inPlan
    exact ⟨first, List.mem_append_left _ firstMember, rfl⟩
  · intro first firstMember
    rcases List.mem_append.mp firstMember with before | last
    · exact planned.complete first before
    · rw [List.mem_singleton.mp last]
      exact among

theorem Planned.not_mem
    (planned : Planned members done plan)
    (new : owner.1.id ∉ done.map fun owner => owner.1.id) :
    scopeIdFor owner.1.id owner.2 ∉ plan.map (·.1) := by
  intro member
  obtain ⟨entry, inPlan, same⟩ := List.mem_map.mp member
  obtain ⟨other, otherMember, rfl⟩ := planned.sound entry inPlan
  have sameId : other.1.id = owner.1.id := (scopeIdFor_injective same).1
  exact new (sameId ▸ List.mem_map_of_mem otherMember)

/-- A new owner goes to the end of the layout, wherever it sits from then on. -/
theorem Planned.snoc
    (planned : Planned members done plan)
    (new : owner.1.id ∉ done.map fun owner => owner.1.id)
    {parent : Option String}
    (placed : ∀ id, later.scopeOf id = if owner.1.id = id then parent else members.scopeOf id) :
    Planned later (done ++ [owner])
      (plan ++ [(scopeIdFor owner.1.id owner.2, owner.2, some owner.1.id, parent)]) := by
  have here : placementOf later owner =
      (scopeIdFor owner.1.id owner.2, owner.2, some owner.1.id, parent) := by
    rw [placementOf, placed, if_pos rfl]
  have alike : ∀ other ∈ done, placementOf later other = placementOf members other := by
    intro other member
    have apart : owner.1.id ≠ other.1.id := fun same => new (same ▸ List.mem_map_of_mem member)
    rw [placementOf, placementOf, placed, if_neg apart]
  rw [← here]
  constructor
  case sound =>
    intro entry member
    rcases List.mem_append.mp member with before | last
    · obtain ⟨other, otherMember, rfl⟩ := planned.sound entry before
      exact ⟨other, List.mem_append_left _ otherMember, (alike other otherMember).symm⟩
    · exact ⟨owner, by simp, List.mem_singleton.mp last⟩
  case complete =>
    intro other member
    rcases List.mem_append.mp member with before | last
    · rw [alike other before]
      exact List.mem_append_left _ (planned.complete other before)
    · rw [List.mem_singleton.mp last]
      exact List.mem_append_right _ List.mem_cons_self

/-- A mount of an owner takes the place of an earlier one, which held the same scope. -/
theorem Mounted.snoc
    {document : String}
    {listed : OrderedMap String Nat}
    {mounts after : List Mount}
    (mounted : Mounted document done listed mounts)
    (single : SingleScoped (done ++ [owner]))
    (kept : ∀ (place : Nat) mount, mounts[place]? = some mount → after[place]? = some mount)
    {place : Nat}
    {mount : Mount}
    (found : after[place]? = some mount)
    (holds : mount.Holds document (scopeIdFor owner.1.id owner.2)) :
    Mounted document (done ++ [owner]) (listed.insert owner.1.id place) after where
  held := by
    intro other member
    rw [get?_insert]
    by_cases same : owner.1.id = other.1.id
    · have kind := single owner (by simp) other member same
      refine ⟨place, mount, if_pos same, found, ?_⟩
      rwa [← same, ← kind]
    · have before : other ∈ done := by
        rcases List.mem_append.mp member with before | last
        · exact before
        · exact absurd (congrArg (fun owner => owner.1.id) (List.mem_singleton.mp last)).symm same
      obtain ⟨former, formerMount, among, formerAt, formerHolds⟩ := mounted.held other before
      exact ⟨former, formerMount, by rw [if_neg same, among], kept _ _ formerAt, formerHolds⟩
  own := by
    intro other member
    rcases mem_values_insert member with rfl | before
    · exact ⟨mount, found, holds.document⟩
    · obtain ⟨former, formerAt, own⟩ := mounted.own other before
      exact ⟨former, kept _ _ formerAt, own⟩

end Graph

end LuauNodes
