import LuauNodes.Graph.Basic
import LuauNodes.Node.Palette

/-!
# Membership in scopes

Which scope every node of a graph sits in.  What execution reaches from the body
outputs of an owner belongs to the owner's scope, except for the bodies of
owners on the way.  A node that only computes a value joins the scope of a node
that it feeds.  All other nodes sit in the global scope.
-/

namespace LuauNodes

/-- The scopes of nodes.  A node without an entry, or whose entry is empty, sits in the global
scope. -/
abbrev Membership := OrderedMap String (Option String)

/-- The scope of a node. -/
def Membership.scopeOf (members : Membership) (nodeId : String) : Option String :=
  (members.get? nodeId).join

namespace Graph

/-! ## Owners and their bodies -/

/-- The kind of scope that a node owns. -/
def ownedKind? (palette : Palette) (node : GraphNode) : Option ScopeKind :=
  (palette.get? node.kind).bind NodeKind.scopeKind

/-- The nodes that own a scope, with the kinds of their scopes. -/
def owners (palette : Palette) (graph : Graph) : List (GraphNode × ScopeKind) :=
  graph.nodes.filterMap fun node => (ownedKind? palette node).map fun kind => (node, kind)

/-- The scope that every owner owns; of several owners with one identifier the last counts. -/
def ownedScopes (owners : List (GraphNode × ScopeKind)) : OrderedMap String String :=
  .ofList (owners.map fun (node, kind) => (node.id, scopeIdFor node.id kind))

/-- An edge leaves a node through one of its body outputs. -/
def leavesBody (palette : Palette) (node : GraphNode) (edge : GraphEdge) : Bool :=
  match palette.get? node.kind, edge.sourceHandle with
  | some kind, some handle => !handle.isEmpty && kind.isBodyOutput handle
  | _, _ => false

/-- The nodes that the body outputs of a node lead to. -/
def bodyTargets (palette : Palette) (graph : Graph) (node : GraphNode) : List String :=
  ((graph.outgoing node.id).filter (leavesBody palette node)).map GraphEdge.target

/-- The nodes that the other outputs of a node lead to. -/
def onwardTargets (palette : Palette) (graph : Graph) (node : GraphNode) : List String :=
  ((graph.outgoing node.id).filter fun edge => !leavesBody palette node edge).map
    GraphEdge.target

/-- Visits the nodes of a queue and what their onward edges lead to.  `seen` holds what was
visited before, and `reached` the nodes found so far. -/
def visit (palette : Palette) (graph : Graph) :
    Nat → List String → List String → List String → List String
  | 0, _, _, reached => reached
  | _, [], _, reached => reached
  | fuel + 1, id :: queue, seen, reached =>
    if seen.contains id then visit palette graph fuel queue seen reached
    else
      match graph.node? id with
      | none => visit palette graph fuel queue (id :: seen) reached
      | some node =>
        visit palette graph fuel (queue ++ onwardTargets palette graph node) (id :: seen)
          (reached ++ [id])

/-- The nodes of an owner's body, nearest first.  The edges of a node are queued only once, so
that their number bounds the visits. -/
def bodyReach (palette : Palette) (graph : Graph) (owner : GraphNode) : List String :=
  visit palette graph (graph.edges.length + 1) (bodyTargets palette graph owner) [owner.id] []

/-- Places nodes in a scope unless they have a place already. -/
def placeAll (scopeId : String) (members : Membership) (nodeIds : List String) : Membership :=
  nodeIds.foldl
    (fun rest id => if rest.contains id then rest else rest.insert id (some scopeId)) members

/-- Places the bodies of all owners; the first owner that reaches a node keeps it. -/
def placeBodies
    (palette : Palette)
    (graph : Graph)
    (owners : List (GraphNode × ScopeKind))
    (members : Membership) :
    Membership :=
  let scopes := ownedScopes owners
  owners.foldl
    (fun rest (owner, kind) =>
      placeAll (scopes.getD owner.id (scopeIdFor owner.id kind)) rest
        (bodyReach palette graph owner))
    members

/-! ## Nodes that only compute a value -/

/-- A node of a known kind without sockets for execution order. -/
def isPure (palette : Palette) (node : GraphNode) : Bool :=
  palette.contains node.kind && !(palette.sockets node.kind node.stored .empty).hasFlow

/-- The nodes that only compute a value. -/
def pureNodes (palette : Palette) (graph : Graph) : List GraphNode :=
  graph.nodes.filter (isPure palette)

/-- The scope that a node joins: that of the first of its targets that sits in one. -/
def joinedScope? (graph : Graph) (members : Membership) (nodeId : String) : Option String :=
  (graph.outgoing nodeId).findSome? fun edge => members.scopeOf edge.target

/-- Lets a node join a scope unless it has a place already. -/
def inherit (graph : Graph) (members : Membership) (node : GraphNode) : Membership :=
  if members.contains node.id then members
  else
    match joinedScope? graph members node.id with
    | some scopeId => members.insert node.id (some scopeId)
    | none => members

/-- One round over the nodes that only compute a value. -/
def inheritRound (graph : Graph) (nodes : List GraphNode) (members : Membership) : Membership :=
  nodes.foldl (inherit graph) members

/-- Rounds until one of them places no node. -/
def inheritRounds (graph : Graph) (nodes : List GraphNode) : Nat → Membership → Membership
  | 0, members => members
  | fuel + 1, members =>
    let next := inheritRound graph nodes members
    if next.size == members.size then members else inheritRounds graph nodes fuel next

/-- Every node that only computes a value joins the scope of what it feeds.  Each round but the
last places a node, so that their number bounds the rounds. -/
def inheritAll (graph : Graph) (nodes : List GraphNode) (members : Membership) : Membership :=
  inheritRounds graph nodes (nodes.length + 1) members

/-- The scopes of all nodes. -/
def assignScopes (palette : Palette) (graph : Graph) (members : Membership) : Membership :=
  inheritAll graph (pureNodes palette graph)
    (placeBodies palette graph (owners palette graph) members)

/-! ## The order of owners -/

/-- The number of owners around a scope.  A chain of owners that comes back to itself ends
there. -/
def ownerDepth (scopes : OrderedMap String String) (members : Membership) :
    Nat → List String → Option String → Nat
  | 0, _, _ => 0
  | _, _, none => 0
  | fuel + 1, seen, some scopeId =>
    match scopes.entries.find? fun entry => entry.2 == scopeId with
    | none => 0
    | some (owner, _) =>
      if seen.contains owner then 0
      else ownerDepth scopes members fuel (owner :: seen) (members.scopeOf owner) + 1

/-- The number of owners around a node. -/
def depthOf
    (owners : List (GraphNode × ScopeKind))
    (members : Membership)
    (nodeId : String) :
    Nat :=
  ownerDepth (ownedScopes owners) members (owners.length + 1) [] (members.scopeOf nodeId)

/-- Owners with the outer ones before the inner ones, else in their order. -/
def outermostFirst (owners : List (GraphNode × ScopeKind)) (members : Membership) :
    List (GraphNode × ScopeKind) :=
  owners.mergeSort fun left right =>
    depthOf owners members left.1.id ≤ depthOf owners members right.1.id

end Graph

end LuauNodes
