import LuauNodes.Proofs.Graph.BodySearch
import LuauNodes.Proofs.Graph.Membership

/-!
# Scopes for nodes that only compute a value

A node without sockets for execution order takes the scope of a node that it
feeds.  The rounds change no place that a node had before; a node that takes a
scope feeds it along nodes of its kind; and no node without a place is left that
feeds a scope.
-/

namespace LuauNodes.Graph

open Relation (ReflTransGen)

variable {palette : Palette} {graph : Graph} {nodes : List GraphNode}
variable {before members next after : Membership}

/-! ## Nodes that take a scope -/

/-- A node of a known kind none of whose sockets carries execution order. -/
def WithoutFlow (palette : Palette) (node : GraphNode) : Prop :=
  (palette.get? node.kind).isSome ∧
    let sockets := palette.sockets node.kind node.stored .empty
    ∀ socket ∈ sockets.inputs ++ sockets.outputs, socket.type ≠ .flow

theorem mem_pureNodes_iff (node : GraphNode) :
    node ∈ pureNodes palette graph ↔ node ∈ graph.nodes ∧ WithoutFlow palette node := by
  simp [pureNodes, isPure, WithoutFlow, NodeSockets.hasFlow, LuauType.isFlow, Palette.contains,
    Palette.get?, OrderedMap.contains, or_imp, forall_and]

/-- A node without sockets for execution order that had no place and was given one. -/
structure Joined
    (palette : Palette)
    (graph : Graph)
    (before after : Membership)
    (scopeId : String)
    (node : GraphNode) :
    Prop where
  among : node ∈ graph.nodes
  computes : WithoutFlow palette node
  fresh : before.get? node.id = none
  sits : after.get? node.id = some (some scopeId)

/-- Edges lead along nodes that joined a scope to a node that sat in it before. -/
inductive FeedsScope
    (palette : Palette)
    (graph : Graph)
    (before after : Membership)
    (scopeId : String) :
    String → Prop where
  | direct
      {node : GraphNode}
      {edge : GraphEdge}
      (joined : Joined palette graph before after scopeId node)
      (among : edge ∈ graph.edges)
      (leaves : edge.source = node.id)
      (home : before.scopeOf edge.target = some scopeId) :
      FeedsScope palette graph before after scopeId node.id
  | through
      {node : GraphNode}
      {edge : GraphEdge}
      (joined : Joined palette graph before after scopeId node)
      (among : edge ∈ graph.edges)
      (leaves : edge.source = node.id)
      (onward : FeedsScope palette graph before after scopeId edge.target) :
      FeedsScope palette graph before after scopeId node.id

variable {scopeId id : String}

theorem scopeOf_eq_some_iff : members.scopeOf id = some scopeId ↔
    members.get? id = some (some scopeId) := by
  rw [Membership.scopeOf, Option.join_eq_some_iff]

theorem FeedsScope.sits (feeds : FeedsScope palette graph before after scopeId id) :
    after.scopeOf id = some scopeId := by
  cases feeds with
  | direct joined _ _ _ => exact scopeOf_eq_some_iff.mpr joined.sits
  | through joined _ _ _ => exact scopeOf_eq_some_iff.mpr joined.sits

theorem FeedsScope.joins
    (joins : Joins graph nodes members next)
    (feeds : FeedsScope palette graph before members scopeId id) :
    FeedsScope palette graph before next scopeId id := by
  have goesOn {node : GraphNode} (joined : Joined palette graph before members scopeId node) :
      Joined palette graph before next scopeId node :=
    { joined with sits := get?_of_joins joins joined.sits }
  induction feeds with
  | direct joined among leaves home => exact .direct (goesOn joined) among leaves home
  | through joined among leaves _ ih => exact .through (goesOn joined) among leaves ih

/-- Places are kept, and every new one is a scope that the node feeds along such nodes. -/
structure Carries (palette : Palette) (graph : Graph) (before after : Membership) : Prop where
  kept : ∀ id place, before.get? id = some place → after.get? id = some place
  joined : ∀ id place, before.get? id = none → after.get? id = some place →
    ∃ scopeId, place = some scopeId ∧ FeedsScope palette graph before after scopeId id

theorem carries_self (palette : Palette) (graph : Graph) (before : Membership) :
    Carries palette graph before before where
  kept := fun _ _ placed => placed
  joined := by
    intro id place fresh placed
    rw [fresh] at placed
    cases placed

theorem Carries.joins
    (carries : Carries palette graph before members)
    (joins : Joins graph (pureNodes palette graph) members next) :
    Carries palette graph before next where
  kept := fun id place placed => get?_of_joins joins (carries.kept id place placed)
  joined := by
    intro id place fresh placed
    have goesOn {scopeId id : String} :
        FeedsScope palette graph before members scopeId id →
          FeedsScope palette graph before next scopeId id :=
      FeedsScope.joins joins
    obtain ⟨node, member, edge, among, scopeId, absent, leaves, target, rfl⟩ := joins
    obtain ⟨inGraph, computes⟩ := (mem_pureNodes_iff node).mp member
    rw [OrderedMap.get?_insert] at placed
    split at placed
    case isTrue same =>
      subst same
      cases placed
      refine ⟨scopeId, rfl, ?_⟩
      have joined : Joined palette graph before (members.insert node.id (some scopeId)) scopeId
          node := ⟨inGraph, computes, fresh, by rw [OrderedMap.get?_insert, if_pos rfl]⟩
      rw [scopeOf_eq_some_iff] at target
      -- The node that the edge leads to was placed before, or joined in an earlier step.
      cases found : before.get? edge.target with
      | some old =>
          rw [carries.kept _ old found] at target
          cases target
          exact .direct joined among leaves (scopeOf_eq_some_iff.mpr found)
      | none =>
          obtain ⟨_, same, onward⟩ := carries.joined edge.target _ found target
          cases same
          exact .through joined among leaves (goesOn onward)
    case isFalse other =>
      obtain ⟨otherScope, rfl, feeds⟩ := carries.joined id place fresh placed
      exact ⟨otherScope, rfl, goesOn feeds⟩

theorem carries_of_joins
    (path : ReflTransGen (Joins graph (pureNodes palette graph)) before after) :
    Carries palette graph before after := by
  induction path with
  | refl => exact carries_self palette graph before
  | tail _ joins ih => exact ih.joins joins

/-- The node that a new place comes from sits in the same scope. -/
theorem FeedsScope.exists_edge
    (feeds : FeedsScope palette graph before after scopeId id)
    (kept : ∀ id place, before.get? id = some place → after.get? id = some place) :
    ∃ edge ∈ graph.edges, edge.source = id ∧ after.scopeOf edge.target = some scopeId := by
  cases feeds with
  | direct _ among leaves home =>
      rw [scopeOf_eq_some_iff] at home
      exact ⟨_, among, leaves, scopeOf_eq_some_iff.mpr (kept _ _ home)⟩
  | through _ among leaves onward => exact ⟨_, among, leaves, onward.sits⟩

/-- The rounds come to their end.  Places were kept, and nodes without sockets for execution order
joined scopes that they feed; none of these nodes is left that feeds a scope and has no place. -/
structure Settles (palette : Palette) (graph : Graph) (before after : Membership) : Prop
    extends Carries palette graph before after where
  ends : ∃ rounds ≤ (pureNodes palette graph).length,
    Ends graph (pureNodes palette graph) before after rounds
  beside : ∀ id scopeId, before.get? id = none → after.scopeOf id = some scopeId →
    ∃ edge ∈ graph.edges, edge.source = id ∧ after.scopeOf edge.target = some scopeId
  closed : ∀ node ∈ graph.nodes, WithoutFlow palette node → after.get? node.id = none →
    ∀ edge ∈ graph.edges, edge.source = node.id → after.scopeOf edge.target = none

theorem settles_inheritAll (palette : Palette) (graph : Graph) (before : Membership) :
    Settles palette graph before (inheritAll graph (pureNodes palette graph) before) := by
  have few : (unplaced (pureNodes palette graph) before).length ≤
      (pureNodes palette graph).length := List.length_filter_le _ _
  obtain ⟨rounds, within, ends⟩ := ends_inheritRounds graph (Nat.lt_succ_of_le few)
  have carries : Carries palette graph before (inheritAll graph (pureNodes palette graph) before) :=
    carries_of_joins (joins_inheritRounds _ _ _ _)
  refine
    { carries with
      ends := ⟨rounds, Nat.le_trans within few, ends⟩
      beside := ?beside
      closed := ?closed }
  case beside =>
    intro id scopeId fresh sits
    obtain ⟨_, same, feeds⟩ := carries.joined id _ fresh (scopeOf_eq_some_iff.mp sits)
    cases same
    exact feeds.exists_edge carries.kept
  case closed =>
    intro node among computes absent edge leads leaves
    have member : node ∈ pureNodes palette graph := (mem_pureNodes_iff node).mpr ⟨among, computes⟩
    have unjoined := joinedScope?_of_inheritRound ends.still member absent
    exact List.findSome?_eq_none_iff.mp unjoined edge
      (List.mem_filter.mpr ⟨leads, beq_iff_eq.mpr leaves⟩)

/-! ## Where the scopes of bodies come from -/

/-- The bodies of owners place only nodes that lie in one of them. -/
theorem exists_of_get?_placeBodies
    {owners : List (GraphNode × ScopeKind)}
    {place : Option String}
    (placed : (placeBodies palette graph owners members).get? id = some place) :
    members.get? id = some place ∨ ∃ owner ∈ owners, id ∈ bodyReach palette graph owner.1 := by
  unfold placeBodies at placed
  generalize ownedScopes owners = scopes at placed
  induction owners generalizing members with
  | nil => exact Or.inl placed
  | cons owner rest ih =>
      rcases ih placed with here | ⟨later, member, reached⟩
      · rw [get?_placeAll, Option.or_eq_some_iff] at here
        rcases here with old | ⟨-, new⟩
        · exact Or.inl old
        · obtain ⟨reached, -⟩ := Option.ite_none_right_eq_some.mp new
          exact Or.inr ⟨owner, List.mem_cons_self, reached⟩
      · exact Or.inr ⟨later, List.mem_cons_of_mem _ member, reached⟩

/-- Whatever was placed before, the rounds come to an end and leave a closed assignment; and what
the bodies of owners place before the rounds are nodes of the graph that lie in these bodies. -/
theorem scope_inheritance_settles (palette : Palette) (graph : Graph) :
    (∀ before,
      Settles palette graph before (inheritAll graph (pureNodes palette graph) before)) ∧
      ∀ id place, (placeBodies palette graph (owners palette graph) ∅).get? id = some place →
        (∃ node ∈ graph.nodes, node.id = id) ∧
          ∃ owner ∈ owners palette graph, id ∈ bodyReach palette graph owner.1 := by
  refine ⟨settles_inheritAll palette graph, fun id place placed => ?_⟩
  rcases exists_of_get?_placeBodies placed with old | ⟨owner, member, reached⟩
  · cases old
  · obtain ⟨-, known⟩ := (mem_bodyReach_iff id).mp reached
    exact ⟨(isSome_node?_iff id).mp known, owner, member, reached⟩

end LuauNodes.Graph
