import LuauNodes.Proofs.Graph.Analysing
import LuauNodes.Proofs.Graph.Membership
import Mathlib.Data.List.Nodup

/-!
# Mounting owners

What mounting makes of the owners of a graph.  They are mounted one after the
other, each inside the scope that it sits in if that is stored already, and
outside of every scope else.  As owners come outermost first, an owner is put
elsewhere only where owners lie in each other's bodies.
-/

namespace LuauNodes

namespace Graph

variable {assigned members : Membership} {done : List (GraphNode × ScopeKind)}

/-- The layout that the scopes of some owners make where the owners sit. -/
def planOf (members : Membership) (owners : List (GraphNode × ScopeKind)) : Layout :=
  owners.map fun owner =>
    (scopeIdFor owner.1.id owner.2, owner.2, some owner.1.id, members.scopeOf owner.1.id)

/-- What mounting some owners has made of the assigned membership: an owner stays where it is if
the scope around it was mounted before, and all that happens to others is that they are put
outside of every scope. -/
structure Settled
    (assigned : Membership)
    (done : List (GraphNode × ScopeKind))
    (members : Membership) :
    Prop where
  keptOrOutside : ∀ id, members.scopeOf id = assigned.scopeOf id ∨ members.scopeOf id = none
  elsewhere : ∀ id, (id ∉ done.map fun owner => owner.1.id) →
    members.scopeOf id = assigned.scopeOf id
  kept : ∀ first owner later, done = first ++ owner :: later → ∀ outer ∈ first,
    assigned.scopeOf owner.1.id = some (scopeIdFor outer.1.id outer.2) →
      members.scopeOf owner.1.id = assigned.scopeOf owner.1.id

theorem settled_nil (assigned : Membership) : Settled assigned [] assigned where
  keptOrOutside := fun _ => Or.inl rfl
  elsewhere := fun _ _ => rfl
  kept := fun first owner later split => by simp at split

/-- A scope that an owner can be mounted under next: a mounted one, which is the one that the owner
was assigned to, or none, unless the one that it was assigned to is mounted. -/
structure Fitting
    (assigned : Membership)
    (done : List (GraphNode × ScopeKind))
    (members : Membership)
    (owner : GraphNode × ScopeKind)
    (parent : Option String) :
    Prop where
  mounted : ∀ outer, parent = some outer → outer ∈ (planOf members done).map (·.1)
  own : parent = assigned.scopeOf owner.1.id ∨ parent = none
  around : ∀ outer ∈ done, assigned.scopeOf owner.1.id = some (scopeIdFor outer.1.id outer.2) →
    parent = assigned.scopeOf owner.1.id

theorem DistinctOwners.not_mem_of_snoc
    {owner : GraphNode × ScopeKind}
    (distinct : DistinctOwners (done ++ [owner])) :
    owner.1.id ∉ done.map fun owner => owner.1.id := by
  rw [DistinctOwners, List.map_append, List.nodup_append] at distinct
  intro member
  exact distinct.2.2 _ member _ (List.mem_map_of_mem List.mem_cons_self) rfl

theorem Settled.snoc
    (settled : Settled assigned done members)
    {owner : GraphNode × ScopeKind}
    (distinct : DistinctOwners (done ++ [owner]))
    {later : Membership}
    {parent : Option String}
    (placed : ∀ id, later.scopeOf id = if owner.1.id = id then parent else members.scopeOf id)
    (fits : Fitting assigned done members owner parent) :
    Settled assigned (done ++ [owner]) later where
  keptOrOutside := by
    intro id
    rw [placed]
    split
    · rename_i here
      exact here ▸ fits.own
    · exact settled.keptOrOutside id
  elsewhere := by
    intro id outside
    rw [List.map_append, List.mem_append, not_or] at outside
    have apart : owner.1.id ≠ id := fun same => outside.2 (by simp [same])
    rw [placed, if_neg apart]
    exact settled.elsewhere id outside.1
  kept := by
    intro first other rest split outer member inside
    rcases List.eq_nil_or_concat rest with rfl | ⟨init, last, rfl⟩
    · obtain ⟨rfl, same⟩ := List.append_inj' split rfl
      obtain rfl := List.cons.inj same |>.1
      rw [placed, if_pos rfl]
      exact fits.around outer member inside
    · have earlier : done = first ++ other :: init := by
        rw [List.concat_eq_append, ← List.cons_append, ← List.append_assoc] at split
        exact (List.append_inj' split rfl).1
      have apart : owner.1.id ≠ other.1.id := by
        intro same
        refine distinct.not_mem_of_snoc ?_
        rw [same, earlier]
        simp
      rw [placed, if_neg apart]
      exact settled.kept first other init earlier outer member inside

theorem planOf_snoc
    {owner : GraphNode × ScopeKind}
    (distinct : DistinctOwners (done ++ [owner]))
    {later : Membership}
    {parent : Option String}
    (placed : ∀ id, later.scopeOf id = if owner.1.id = id then parent else members.scopeOf id) :
    planOf later (done ++ [owner]) =
      planOf members done ++
        [(scopeIdFor owner.1.id owner.2, owner.2, some owner.1.id, parent)] := by
  rw [planOf, List.map_append, List.map_singleton, placed, if_pos rfl]
  refine congrArg (· ++ _) (List.map_congr_left fun other member => ?_)
  have apart : owner.1.id ≠ other.1.id := by
    intro same
    exact distinct.not_mem_of_snoc (same ▸ List.mem_map_of_mem member)
  rw [placed, if_neg apart]

theorem mem_planOf_iff (members : Membership) (scopeId : String) :
    scopeId ∈ (planOf members done).map (·.1) ↔
      ∃ owner ∈ done, scopeIdFor owner.1.id owner.2 = scopeId := by
  simp only [planOf, List.map_map, List.mem_map, Function.comp_apply]

theorem not_mem_planOf
    {owner : GraphNode × ScopeKind}
    (distinct : DistinctOwners (done ++ [owner]))
    (members : Membership) :
    scopeIdFor owner.1.id owner.2 ∉ (planOf members done).map (·.1) := by
  rw [mem_planOf_iff]
  rintro ⟨other, member, same⟩
  have listed : owner.1.id ∈ done.map fun owner => owner.1.id :=
    (scopeIdFor_injective same).1 ▸ List.mem_map_of_mem member
  exact distinct.not_mem_of_snoc listed

theorem Settled.scopeOf_of_some
    (settled : Settled assigned done members)
    {id scopeId : String}
    (scope : members.scopeOf id = some scopeId) :
    assigned.scopeOf id = some scopeId := by
  rcases settled.keptOrOutside id with same | outside
  · exact same.symm.trans scope
  · rw [outside] at scope
    cases scope

/-- Once all owners are mounted, an owner is where it was assigned to if its chain ends. -/
theorem Settled.kept_of_chain
    {owners : List (GraphNode × ScopeKind)}
    (settled : Settled assigned (outermostFirst owners assigned) members)
    (distinct : DistinctOwners owners)
    {owner : GraphNode × ScopeKind}
    (member : owner ∈ owners)
    {outer : List String}
    (chain : OwnerChain owners assigned owner.1.id outer) :
    members.scopeOf owner.1.id = assigned.scopeOf owner.1.id := by
  cases scope : assigned.scopeOf owner.1.id with
  | none =>
      rcases settled.keptOrOutside owner.1.id with same | outside
      · exact same.trans scope
      · exact outside
  | some scopeId =>
      obtain ⟨first, later, split⟩ := List.append_of_mem ((mem_outermostFirst owner).mpr member)
      obtain ⟨around, early, rfl⟩ := exists_before_of_chain distinct split chain scope
      exact (settled.kept first owner later split around early scope).trans scope

theorem Settled.rehomed
    {owners : List (GraphNode × ScopeKind)}
    (settled : Settled assigned (outermostFirst owners assigned) members)
    (distinct : DistinctOwners owners)
    (housed : Housed owners assigned)
    {id : String}
    (moved : members.scopeOf id ≠ assigned.scopeOf id) :
    members.scopeOf id = none ∧ (∃ owner ∈ owners, owner.1.id = id) ∧
      RunsIntoCycle owners assigned id := by
  have owns : ∃ owner ∈ owners, owner.1.id = id := by
    by_contra none
    refine moved (settled.elsewhere id ?_)
    intro member
    obtain ⟨owner, among, same⟩ := List.mem_map.mp member
    exact none ⟨owner, (mem_outermostFirst owner).mp among, same⟩
  refine ⟨(settled.keptOrOutside id).resolve_left moved, owns, ?_⟩
  obtain ⟨owner, member, rfl⟩ := owns
  refine (housed.ownerChain_or_cycle owner.1.id).resolve_left ?_
  rintro ⟨outer, chain⟩
  exact moved (settled.kept_of_chain distinct member chain)

/-- The scope where an owner sits fits if it is stored, and else none does. -/
theorem Settled.fitting
    (settled : Settled assigned done members)
    {registry : Registry}
    {document : String}
    (laidOut : registry.LaidOut document (planOf members done))
    {owner : GraphNode × ScopeKind}
    (distinct : DistinctOwners (done ++ [owner])) :
    Fitting assigned done members owner
      (if registry.scopes.has document (members.scopeOf owner.1.id) then
        members.scopeOf owner.1.id
      else none) := by
  have wanted := settled.elsewhere _ distinct.not_mem_of_snoc
  constructor
  case mounted =>
    intro outer isParent
    split at isParent
    · rename_i present
      rw [isParent, laidOut.has_iff] at present
      exact present
    · cases isParent
  case own =>
    split
    · exact Or.inl wanted
    · exact Or.inr rfl
  case around =>
    intro outer member inside
    have present : registry.scopes.has document (members.scopeOf owner.1.id) = true := by
      rw [wanted, inside, laidOut.has_iff, mem_planOf_iff]
      exact ⟨outer, member, rfl⟩
    rw [if_pos present, wanted]

end Graph

end LuauNodes

namespace LuauNodes.AnalysisSeat

open Act

variable {η : Type} {seat : AnalysisSeat η} {Calm : η → Prop}
variable {base : Analysis} {members : Membership} {plan : Layout} {before : Workspace η}

/-- Mounting a scope under a stored one puts it at the end of the layout. -/
theorem ensures_mountScope
    (attended : seat.Attended Calm)
    (underway : seat.Underway Calm base members plan before)
    {nodeId : String}
    {kind : ScopeKind}
    {parent : Option String}
    (inner : kind ≠ .global)
    (fresh : scopeIdFor nodeId kind ∉ plan.map (·.1))
    (parentStored : ∀ outer, parent = some outer → outer ∈ plan.map (·.1))
    (symbols : List Symbol) :
    (mountScope seat.tell base.document nodeId kind parent symbols false).Ensures before
      fun _ after => seat.Underway Calm base members
        (plan ++ [(scopeIdFor nodeId kind, kind, some nodeId, parent)]) after := by
  let grown : Layout := plan ++ [(scopeIdFor nodeId kind, kind, some nodeId, parent)]
  obtain ⟨change, created, ⟨stored, result⟩, laidOut⟩ :=
    underway.laidOut.createScope (some nodeId) inner fresh parentStored
  have adopted : seat.Underway Calm base members grown (before.adopt change) :=
    underway.withRegistry laidOut rfl
  have tells : Keeps (seat.Underway Calm base members grown) (change.events.forM seat.tell) :=
    keeps_tell attended change.events
  have declares : ∀ place : Nat, Keeps (seat.Underway Calm base members grown) (do
      for symbol in symbols do
        discard (declareIn seat.tell place symbol)
      return place) := fun place =>
    (Keeps.forIn fun symbol => (keeps_declareIn attended place symbol).discard).bind fun _ =>
      keeps_pure place
  unfold mountScope Act.createScope
  simp only [ensures_bind, ensures_registry, created, ensures_ofTree_ok, ensures_commit, result,
    Option.mapM_some, follow, ensures_map, ensures_get, ensures_modify, ensures_pure]
  refine Ensures.mono (tells _ (adopted.transfer rfl rfl)) fun _ after told => ?_
  simp only [Option.isSome_some, if_true, Bool.false_eq_true, if_false]
  exact declares _ _ (told.transfer rfl rfl)

/-- Once an owner sits where its scope fits, mounting the scope there settles the owner. -/
theorem ensures_mountFitting
    (attended : seat.Attended Calm)
    {assigned later : Membership}
    {done : List (GraphNode × ScopeKind)}
    {owner : GraphNode × ScopeKind}
    {parent : Option String}
    (inner : owner.2 ≠ .global)
    (distinct : Graph.DistinctOwners (done ++ [owner]))
    (settled : Graph.Settled assigned done members)
    (fits : Graph.Fitting assigned done members owner parent)
    (placed : ∀ id, later.scopeOf id = if owner.1.id = id then parent else members.scopeOf id)
    (underway : seat.Underway Calm base later (Graph.planOf members done) before)
    (notices : List Notice)
    (symbols : List Symbol) :
    (do
      note notices
      let place ← mountScope seat.tell base.document owner.1.id owner.2 parent symbols false
      seat.update fun held =>
        { held with mounts := held.mounts.insert owner.1.id place }).Ensures before fun _ after =>
          ∃ later, Graph.Settled assigned (done ++ [owner]) later ∧
            seat.Underway Calm base later (Graph.planOf later (done ++ [owner])) after := by
  have noted : seat.Underway Calm base later (Graph.planOf members done)
      { before with notices := before.notices ++ notices } := underway.transfer rfl rfl
  have mounted := ensures_mountScope attended noted inner (Graph.not_mem_planOf distinct members)
    fits.mounted symbols
  rw [← Graph.planOf_snoc distinct placed] at mounted
  simp only [ensures_bind, ensures_note]
  refine mounted.mono fun place after holds => ?_
  refine (ensures_update _ _).mpr ⟨later, settled.snoc distinct placed fits, ?_⟩
  exact holds.update attended
    (fun held => { held with mounts := held.mounts.insert owner.1.id place })
    (fun _ => rfl) (fun _ => rfl) (fun _ => rfl) holds.members

/-- Mounting an owner puts its scope at the end of the layout, inside the scope that the owner sits
in from then on. -/
theorem ensures_mountOwner
    (attended : seat.Attended Calm)
    {assigned : Membership}
    {done : List (GraphNode × ScopeKind)}
    {owner : GraphNode × ScopeKind}
    (owned : Graph.ownedKind? base.palette owner.1 = some owner.2)
    (inner : owner.2 ≠ .global)
    (distinct : Graph.DistinctOwners (done ++ [owner]))
    (settled : Graph.Settled assigned done members)
    (underway : seat.Underway Calm base members (Graph.planOf members done) before) :
    (seat.mountOwner owner.1 owner.2).Ensures before fun _ after =>
      ∃ later, Graph.Settled assigned (done ++ [owner]) later ∧
        seat.Underway Calm base later (Graph.planOf later (done ++ [owner])) after := by
  obtain ⟨kind, available, _⟩ := Option.bind_eq_some_iff.mp owned
  unfold mountOwner
  rw [ensures_bind, ensures_current, underway.palette, underway.members, underway.document,
    available]
  extract_lets sits
  rw [ensures_bind, ensures_registry]
  extract_lets parent mounts
  have fits : Graph.Fitting assigned done members owner parent :=
    settled.fitting underway.laidOut distinct
  by_cases rehomed : (parent.isNone && sits.isSome) = true
  · have outside : parent = none := by
      rw [Bool.and_eq_true, Option.isNone_iff_eq_none] at rehomed
      exact rehomed.1
    rw [if_pos rehomed, ensures_bind, ensures_update]
    have placed : ∀ id, Membership.scopeOf (members.insert owner.1.id none) id =
        if owner.1.id = id then parent else members.scopeOf id := by
      intro id
      rw [Membership.scopeOf_insert, outside]
    refine ensures_mountFitting attended inner distinct settled fits placed ?_ _ _
    exact underway.update attended
      (fun held => { held with members := held.members.insert owner.1.id none })
      (fun _ => rfl) (fun _ => rfl) (fun _ => rfl)
      (congrArg (OrderedMap.insert · owner.1.id none) underway.members)
  · have placed : ∀ id, members.scopeOf id =
        if owner.1.id = id then parent else members.scopeOf id := by
      intro id
      split
      · rename_i here
        subst here
        -- An owner that is not re-homed sits in a stored scope or in none.
        cases present : before.registry.scopes.has base.document sits with
        | true => simp only [parent, present, if_true, sits]
        | false =>
            have bare : parent = none := by simp [parent, present]
            rw [bare] at rehomed ⊢
            simpa using rehomed
      · rfl
    rw [if_neg rehomed]
    exact ensures_mountFitting attended inner distinct settled fits placed underway _ _

/-- Mounting the owners one after the other mounts them all. -/
theorem ensures_mountOwners
    (attended : seat.Attended Calm)
    {assigned : Membership}
    {order : List (GraphNode × ScopeKind)}
    (owned : ∀ owner ∈ order, Graph.ownedKind? base.palette owner.1 = some owner.2 ∧
      owner.2 ≠ .global)
    (distinct : Graph.DistinctOwners order)
    (underway : seat.Underway Calm base assigned [] before) :
    (forIn order PUnit.unit fun (owner : GraphNode × ScopeKind) _ => do
      seat.mountOwner owner.1 owner.2
      pure (ForInStep.yield PUnit.unit) : Act η PUnit).Ensures before fun _ after =>
        ∃ members, Graph.Settled assigned order members ∧
          seat.Underway Calm base members (Graph.planOf members order) after := by
  refine ensures_forIn
    (fun done workspace => ∃ members, Graph.Settled assigned done members ∧
      seat.Underway Calm base members (Graph.planOf members done) workspace)
    ⟨assigned, Graph.settled_nil assigned, underway⟩ ?_
  rintro done owner rest workspace rfl ⟨members, settled, underwayStill⟩
  obtain ⟨kind, inner⟩ := owned owner (by simp)
  have distinctSoFar : Graph.DistinctOwners (done ++ [owner]) := by
    rw [List.append_cons] at distinct
    rw [Graph.DistinctOwners, List.map_append] at distinct
    exact (List.nodup_append.mp distinct).1
  rw [ensures_bind]
  refine (ensures_mountOwner attended kind inner distinctSoFar settled underwayStill).mono ?_
  rintro _ after mounted
  exact (ensures_pure _ _).mpr ⟨rfl, mounted⟩

end LuauNodes.AnalysisSeat
