import LuauNodes.Proofs.Graph.Declarations

/-!
# Declaring a graph

What an analysis makes of a registry.  Resolving the sockets of all nodes only
looks at the registry, and tells what the nodes offer in it.  Declaring all nodes
puts their symbols into the registry one after the other, as every node that has
no binding yet gets one of its own.
-/

namespace LuauNodes

/-- Nodes with different identifiers have the sockets that are listed for them one by one. -/
theorem Graph.resolvedIn_ofList
    {graph : Graph}
    {palette : Palette}
    {document : String}
    {members : Membership}
    {registry : Registry}
    {feeds : GraphFeeds}
    {listed : List (String × NodeSockets)}
    (distinct : (graph.nodes.map GraphNode.id).Nodup)
    (paired : List.Forall₂ (fun node entry => ∃ context,
      SocketContext.ofRegistry registry document (members.scopeOf node.id)
        (feeds.getD node.id ∅) = .ok context ∧
      entry = (node.id, palette.sockets node.kind node.stored context)) graph.nodes listed) :
    graph.ResolvedIn palette document members registry feeds (.ofList listed) := by
  have ids : graph.nodes.map GraphNode.id = listed.map (·.1) := by
    have alike : List.Forall₂ (· = ·) (graph.nodes.map GraphNode.id) (listed.map (·.1)) := by
      rw [List.forall₂_map_left_iff, List.forall₂_map_right_iff]
      refine paired.imp ?_
      rintro node _ ⟨context, -, rfl⟩
      rfl
    rwa [List.forall₂_eq_eq_eq] at alike
  have entries : ∀ node ∈ graph.nodes, ∃ context,
      SocketContext.ofRegistry registry document (members.scopeOf node.id)
        (feeds.getD node.id ∅) = .ok context ∧
      (node.id, palette.sockets node.kind node.stored context) ∈ listed := by
    clear ids distinct
    generalize graph.nodes = nodes at paired
    induction paired with
    | nil => exact fun node member => by cases member
    | cons own _ ih =>
        intro node member
        rcases List.mem_cons.mp member with rfl | later
        · obtain ⟨context, found, rfl⟩ := own
          exact ⟨context, found, List.mem_cons_self⟩
        · obtain ⟨context, found, among⟩ := ih node later
          exact ⟨context, found, List.mem_cons_of_mem _ among⟩
  constructor
  case nodes =>
    intro node member
    obtain ⟨context, found, among⟩ := entries node member
    exact ⟨context, found, (OrderedMap.get?_ofList_eq_some_iff (ids ▸ distinct) _ _).mpr among⟩
  case others =>
    intro id elsewhere
    refine Option.eq_none_iff_forall_ne_some.mpr fun sockets found => ?_
    have among : id ∈ listed.map (·.1) :=
      List.mem_map_of_mem (OrderedMap.mem_of_get?_ofList_eq_some found)
    rw [← ids] at among
    obtain ⟨node, member, same⟩ := List.mem_map.mp among
    exact elsewhere node member same

namespace AnalysisSeat

open Act

variable {η : Type} {seat : AnalysisSeat η} {Calm : η → Prop}
variable {analysis : Analysis} {registry : Registry} {before : Workspace η}

/-- An analysis is as it is in a registry, and those who are told of events are calm. -/
structure Stands
    (seat : AnalysisSeat η)
    (Calm : η → Prop)
    (analysis : Analysis)
    (registry : Registry)
    (workspace : Workspace η) :
    Prop where
  calm : Calm workspace.rest
  read : seat.read workspace.rest = analysis
  registry : workspace.registry = registry

namespace Stands

/-- Neither the watches nor the mounts, the bindings and the log matter. -/
theorem transfer
    {after : Workspace η}
    (stands : seat.Stands Calm analysis registry before)
    (same : after.registry = before.registry)
    (rest : after.rest = before.rest) :
    seat.Stands Calm analysis registry after :=
  ⟨rest ▸ stands.calm, rest ▸ stands.read, same.trans stands.registry⟩

theorem adopt
    {later : Registry}
    {after : Workspace η}
    (stands : seat.Stands Calm analysis registry before)
    (adopts : seat.Adopts Calm before later after) :
    seat.Stands Calm analysis later after :=
  ⟨adopts.calm, adopts.read.trans stands.read, adopts.registry⟩

theorem update
    (attended : seat.Attended Calm)
    (stands : seat.Stands Calm analysis registry before)
    (f : Analysis → Analysis) :
    seat.Stands Calm (f analysis) registry
      { before with rest := seat.write (f (seat.read before.rest)) before.rest } where
  calm := attended.calm_write _ _ stands.calm
  read := by
    rw [attended.read_write _ _ stands.calm, stands.read]
  registry := stands.registry

theorem looks
    {α : Type}
    {activity : Act η α}
    {post : α → Prop}
    (stands : seat.Stands Calm analysis registry before)
    (looks : Looks activity)
    (ended : activity.Ensures before fun answer _ => post answer) :
    activity.Ensures before fun answer after =>
      post answer ∧ seat.Stands Calm analysis registry after := by
  refine (looks.ensures ended).mono ?_
  rintro answer _ ⟨holds, notices, rfl⟩
  exact ⟨holds, stands.transfer rfl rfl⟩

end Stands

/-! ## Sockets -/

theorem ensures_context
    (stands : seat.Stands Calm analysis registry before)
    (consistent : registry.ConsistentAt analysis.document [])
    (nodeId : String)
    (feeds : GraphFeeds) :
    (seat.context nodeId feeds).Ensures before fun context after =>
      SocketContext.ofRegistry registry analysis.document (analysis.members.scopeOf nodeId)
        (feeds.getD nodeId ∅) = .ok context ∧ seat.Stands Calm analysis registry after := by
  obtain ⟨surroundings, found⟩ := Registry.exists_ofRegistry consistent.forest
    (analysis.members.scopeOf nodeId) (feeds.getD nodeId ∅)
  refine stands.looks (looks_context nodeId feeds) ?_
  simp only [context, ensures_bind, ensures_current, ensures_registry, stands.read,
    stands.registry, found, ensures_ofTree_ok]

theorem ensures_resolve
    (stands : seat.Stands Calm analysis registry before)
    (consistent : registry.ConsistentAt analysis.document [])
    (feeds : GraphFeeds)
    (node : GraphNode) :
    (seat.resolve feeds node).Ensures before fun resolved after =>
      (∃ context, SocketContext.ofRegistry registry analysis.document
          (analysis.members.scopeOf node.id) (feeds.getD node.id ∅) = .ok context ∧
        resolved = (node.id, analysis.palette.sockets node.kind node.stored context)) ∧
      seat.Stands Calm analysis registry after := by
  refine stands.looks (looks_resolve feeds node) ?_
  unfold resolve
  rw [ensures_bind]
  refine (ensures_context stands consistent node.id feeds).mono ?_
  rintro context middle ⟨found, standsStill⟩
  simp only [ensures_bind, ensures_current, ensures_note, ensures_pure, standsStill.read]
  exact ⟨context, found, rfl⟩

/-- The sockets of all nodes are those that the nodes have in the registry. -/
theorem ensures_resolveAll
    (stands : seat.Stands Calm analysis registry before)
    (consistent : registry.ConsistentAt analysis.document [])
    (distinct : (analysis.graph.nodes.map GraphNode.id).Nodup)
    (feeds : GraphFeeds) :
    (seat.resolveAll feeds).Ensures before fun resolved after =>
      analysis.graph.ResolvedIn analysis.palette analysis.document analysis.members registry feeds
        resolved ∧ seat.Stands Calm analysis registry after := by
  unfold resolveAll
  rw [ensures_bind, ensures_current, stands.read, ensures_bind]
  refine (ensures_mapM _ _ stands fun node _ stands =>
    ensures_resolve stands consistent feeds node).mono ?_
  rintro answers after ⟨paired, standsStill⟩
  rw [ensures_pure]
  exact ⟨Graph.resolvedIn_ofList distinct paired, standsStill⟩

theorem ensures_feedsAfter
    (stands : seat.Stands Calm analysis registry before)
    (consistent : registry.ConsistentAt analysis.document [])
    (distinct : (analysis.graph.nodes.map GraphNode.id).Nodup)
    (feeds : GraphFeeds) :
    (seat.feedsAfter feeds).Ensures before fun answer after =>
      ∃ resolved, analysis.graph.ResolvedIn analysis.palette analysis.document analysis.members
          registry feeds resolved ∧ answer = analysis.graph.feeds resolved ∧
        seat.Stands Calm analysis registry after := by
  unfold feedsAfter
  rw [ensures_bind]
  refine (ensures_resolveAll stands consistent distinct feeds).mono ?_
  rintro resolved after ⟨own, standsStill⟩
  simp only [ensures_bind, ensures_current, ensures_pure, standsStill.read]
  exact ⟨resolved, own, rfl, standsStill⟩

/-! ## Declarations -/

/-- A binding that is made for a node has no entry yet. -/
theorem ensures_bindingOf
    (attended : seat.Attended Calm)
    (stands : seat.Stands Calm analysis registry before)
    (space : Namespace)
    {nodeId : String}
    (unbound : analysis.declarations.get? nodeId = none) :
    (seat.bindingOf space nodeId).Ensures before fun place after =>
      seat.Stands Calm
          { analysis with declarations := analysis.declarations.insert nodeId place } registry
          after ∧
        after.bindings[place]? =
          some ⟨space, analysis.document, analysis.members.scopeOf nodeId, none⟩ := by
  unfold bindingOf
  rw [ensures_bind, ensures_current, stands.read, unbound]
  simp only [addBinding, ensures_bind, ensures_get, ensures_modify, ensures_pure, ensures_update]
  have added : seat.Stands Calm analysis registry { before with bindings := before.bindings ++
      [⟨space, analysis.document, analysis.members.scopeOf nodeId, none⟩] } :=
    stands.transfer rfl rfl
  exact ⟨added.update attended fun held =>
    { held with declarations := held.declarations.insert nodeId before.bindings.length },
    List.getElem?_concat_length⟩

/-- A binding without an entry stores the wanted one, if there is any. -/
theorem Stands.ensures_sync
    (attended : seat.Attended Calm)
    (stands : seat.Stands Calm analysis registry before)
    {place : Nat}
    {binding : Binding}
    (found : before.bindings[place]? = some binding)
    (bare : binding.name = none)
    (name : Option String)
    (build : Option String → String → Symbol) :
    let wanted := Text.strip (name.getD "")
    (sync seat.tell place name fun scopeId wanted => .ok (build scopeId wanted)).Ensures before
      fun _ after => seat.Stands Calm analysis
        (if wanted.isEmpty then registry
        else (registry.declare binding.space binding.document
          (build binding.scopeId wanted)).registry) after := by
  intro wanted
  rw [sync_eq, ensures_bind, ensures_binding?, found]
  dsimp only
  rw [bare]
  dsimp only
  unfold storeWanted
  split
  · exact (ensures_pure _ _).mpr stands
  · simp only [ensures_bind, ensures_binding?, found, ofChecked, ensures_pure, store, rename,
      modifyBinding, ensures_modify]
    refine (attended.ensures_perform stands.calm _).mono ?_
    rintro _ middle ⟨-, adopts⟩
    rw [stands.registry] at adopts
    exact (stands.adopt adopts).transfer rfl rfl

/-- A node without a binding declares its symbol, if it has one. -/
theorem ensures_declareNode
    (attended : seat.Attended Calm)
    (stands : seat.Stands Calm analysis registry before)
    (consistent : registry.ConsistentAt analysis.document [])
    (space : Namespace)
    (feeds : GraphFeeds)
    {node : GraphNode}
    (unbound : analysis.palette.DeclaresIn space node →
      analysis.declarations.get? node.id = none) :
    (seat.declareNode space feeds node).Ensures before fun _ after =>
      ∃ declarations : OrderedMap String Nat,
        seat.Stands Calm { analysis with declarations := declarations }
          (registry.declareEach space analysis.document
            (analysis.palette.declared? space analysis.members feeds node).toList) after ∧
        ∀ id, (analysis.palette.DeclaresIn space node → node.id ≠ id) →
          declarations.get? id = analysis.declarations.get? id := by
  unfold declareNode
  rw [ensures_bind, ensures_current, stands.read]
  by_cases declares : analysis.palette.DeclaresIn space node
  · obtain ⟨kind, available, inSpace⟩ := declares
    rw [available]
    dsimp only
    rw [if_neg (by simp [inSpace]), ensures_bind]
    refine (ensures_context stands consistent node.id feeds).mono ?_
    rintro context looked ⟨found, stands⟩
    rw [ensures_bind, ensures_note, ensures_bind]
    have noted : seat.Stands Calm analysis registry
        { looked with notices := looked.notices ++ kind.configNotices node.stored } :=
      stands.transfer rfl rfl
    refine (ensures_bindingOf attended noted space (unbound ⟨kind, available, inSpace⟩)).mono ?_
    rintro place bound ⟨stands, fresh⟩
    have symbols := Palette.declared?_of_available analysis.members available inSpace
      (Registry.surrounds_of_ofRegistry found).1
    rw [ensures_bind, ensures_binding?, fresh, symbols]
    have others : ∀ id, (analysis.palette.DeclaresIn space node → node.id ≠ id) →
        (analysis.declarations.insert node.id place).get? id = analysis.declarations.get? id := by
      intro id apart
      rw [OrderedMap.get?_insert, if_neg (apart ⟨kind, available, inSpace⟩)]
    cases declared : kind.declaredSymbol node.stored context with
    | none =>
        refine (ensures_discard _).mpr ((stands.ensures_sync attended fresh rfl none _).mono ?_)
        exact fun _ after synced => ⟨_, synced, others⟩
    | some symbol =>
        obtain ⟨stripped, named⟩ :=
          Shape.name_of_declaredSymbol kind.shape (kind.configOf node.stored) declared
        refine (ensures_discard _).mpr
          ((stands.ensures_sync attended fresh rfl (some symbol.name) _).mono ?_)
        intro _ after synced
        simp only [Option.getD_some, stripped, named, Bool.false_eq_true, if_false] at synced
        exact ⟨_, synced, others⟩
  · rw [Palette.declared?_of_not_declaresIn _ _ declares]
    cases available : analysis.palette.get? node.kind with
    | none => exact (ensures_pure _ _).mpr ⟨analysis.declarations, stands, fun _ _ => rfl⟩
    | some kind =>
        have elsewhere : kind.shape.declaration? ≠ some space :=
          fun inSpace => declares ⟨kind, available, inSpace⟩
        dsimp only
        rw [if_pos (by simp [elsewhere])]
        exact (ensures_pure _ _).mpr ⟨analysis.declarations, stands, fun _ _ => rfl⟩

/-- Some nodes have declared their symbols one after the other, and all but those that declare are
bound as before. -/
def HasDeclared
    (seat : AnalysisSeat η)
    (Calm : η → Prop)
    (analysis : Analysis)
    (registry : Registry)
    (space : Namespace)
    (feeds : GraphFeeds)
    (nodes : List GraphNode)
    (workspace : Workspace η) :
    Prop :=
  ∃ declarations : OrderedMap String Nat,
    seat.Stands Calm { analysis with declarations := declarations }
      (registry.declareEach space analysis.document
        (nodes.filterMap (analysis.palette.declared? space analysis.members feeds))) workspace ∧
    ∀ id, (∀ node ∈ nodes, analysis.palette.DeclaresIn space node → node.id ≠ id) →
      declarations.get? id = analysis.declarations.get? id

theorem Stands.hasDeclared_nil
    (stands : seat.Stands Calm analysis registry before)
    (space : Namespace)
    (feeds : GraphFeeds) :
    seat.HasDeclared Calm analysis registry space feeds [] before :=
  ⟨analysis.declarations, stands, fun _ _ => rfl⟩

/-- After some nodes one more declares its symbol, if it has an identifier of its own. -/
theorem HasDeclared.ensures_declareNode
    (attended : seat.Attended Calm)
    {space : Namespace}
    {feeds : GraphFeeds}
    {nodes : List GraphNode}
    (declared : seat.HasDeclared Calm analysis registry space feeds nodes before)
    (reachable : registry.Reachable)
    {node : GraphNode}
    (own : ∀ other ∈ nodes, other.id ≠ node.id)
    (unbound : analysis.palette.DeclaresIn space node →
      analysis.declarations.get? node.id = none) :
    (seat.declareNode space feeds node).Ensures before fun _ after =>
      seat.HasDeclared Calm analysis registry space feeds (nodes ++ [node]) after := by
  obtain ⟨declarations, stands, others⟩ := declared
  have reached := reachable.declareEach space analysis.document
    (nodes.filterMap (analysis.palette.declared? space analysis.members feeds))
  have unboundStill : analysis.palette.DeclaresIn space node →
      declarations.get? node.id = none := by
    intro declares
    rw [others node.id fun other member _ => own other member]
    exact unbound declares
  refine (AnalysisSeat.ensures_declareNode attended stands (reached.consistent _) space feeds
    unboundStill).mono ?_
  rintro _ after ⟨later, standsStill, othersStill⟩
  refine ⟨later, ?_, fun id apart => ?_⟩
  · have last : [node].filterMap (analysis.palette.declared? space analysis.members feeds) =
        (analysis.palette.declared? space analysis.members feeds node).toList := by
      rw [List.filterMap_cons]
      cases analysis.palette.declared? space analysis.members feeds node <;> rfl
    rw [List.filterMap_append, Registry.declareEach_append, last]
    exact standsStill
  · have early := others id fun other member => apart other (List.mem_append_left _ member)
    exact (othersStill id (apart node (by simp))).trans early

/-- Of nodes with different identifiers all declare their symbols one after the other, if none that
declares in the namespace has a binding yet. -/
theorem Stands.ensures_declareAll
    (attended : seat.Attended Calm)
    (stands : seat.Stands Calm analysis registry before)
    (reachable : registry.Reachable)
    (distinct : (analysis.graph.nodes.map GraphNode.id).Nodup)
    (space : Namespace)
    (feeds : GraphFeeds)
    (unbound : ∀ node ∈ analysis.graph.nodes, analysis.palette.DeclaresIn space node →
      analysis.declarations.get? node.id = none) :
    (seat.declareAll space feeds).Ensures before fun _ after =>
      seat.HasDeclared Calm analysis registry space feeds analysis.graph.nodes after := by
  unfold declareAll
  rw [ensures_bind, ensures_current, stands.read, ensures_bind]
  refine Ensures.mono (ensures_forIn (seat.HasDeclared Calm analysis registry space feeds)
    (stands.hasDeclared_nil space feeds) ?_) fun _ after declared => ?_
  · rintro done node rest workspace whole declared
    have own : ∀ other ∈ done, other.id ≠ node.id := by
      intro other member
      rw [whole, List.map_append, List.nodup_append] at distinct
      exact distinct.2.2 _ (List.mem_map_of_mem member) _ (by simp)
    rw [ensures_bind]
    refine (declared.ensures_declareNode attended reachable own
      (unbound node (by simp [whole]))).mono ?_
    exact fun _ after declaredToo => (ensures_pure _ _).mpr ⟨rfl, declaredToo⟩
  · exact (ensures_pure _ _).mpr declared

end AnalysisSeat

end LuauNodes
