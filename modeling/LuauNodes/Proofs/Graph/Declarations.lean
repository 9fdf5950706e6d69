import LuauNodes.Proofs.Graph.Holding
import LuauNodes.Proofs.Graph.Upstream

/-!
# What nodes declare

A node declares at most one symbol, in the scope where it sits.  The symbol has a
name that is free of blanks around it, and of all that surrounds the node it
depends on the types that feed the node: a set variable has the type that feeds
its value.
-/

namespace LuauNodes

/-- Surroundings of which no more is known than the types that feed the inputs. -/
def SocketContext.ofFeeds (feeds : Feeds) : SocketContext := { empty with feeds := feeds }

/-! ## Symbols of nodes -/

namespace Shape

variable {left right : SocketContext}

theorem declaredSymbol_congr
    (shape : Shape)
    (config : shape.Config)
    (feeds : left.feeds = right.feeds) :
    shape.declaredSymbol config left = shape.declaredSymbol config right := by
  cases shape with
  | variableSet =>
      have same : left.feed? "value" = right.feed? "value" :=
        congrArg (OrderedMap.get? · "value") feeds
      simp only [declaredSymbol, same]
  | _ => rfl

theorem not_isEmpty_of_isDeclarableName {name : String} (declarable : isDeclarableName name) :
    name.isEmpty = false := by
  rw [Bool.eq_false_iff]
  intro empty
  rw [String.isEmpty_iff.mp empty] at declarable
  exact absurd declarable (by decide)

/-- The name of a declared symbol has no blanks around it. -/
theorem name_of_declaredSymbol
    (shape : Shape)
    (config : shape.Config)
    {symbol : Symbol}
    (declared : shape.declaredSymbol config left = some symbol) :
    Text.strip symbol.name = symbol.name ∧ symbol.name.isEmpty = false := by
  cases shape with
  | variableSet | functionDefinition =>
      simp only [declaredSymbol, Option.ite_none_right_eq_some, Option.some.injEq] at declared
      obtain ⟨declarable, rfl⟩ := declared
      exact ⟨Text.strip_strip _, not_isEmpty_of_isDeclarableName declarable⟩
  | _ => cases declared

end Shape

namespace Palette

variable {palette : Palette} {space : Namespace} {members : Membership} {feeds : GraphFeeds}
variable {node : GraphNode} {symbol : Symbol}

/-- The symbol that a node declares in a namespace, in the scope where it sits. -/
def declared?
    (palette : Palette)
    (space : Namespace)
    (members : Membership)
    (feeds : GraphFeeds)
    (node : GraphNode) :
    Option Symbol :=
  (palette.get? node.kind).bind fun kind =>
    if kind.shape.declaration? = some space then
      (kind.declaredSymbol node.stored (.ofFeeds (feeds.getD node.id ∅))).map fun declared =>
        AnalysisSeat.boundSymbol node.id space declared (members.scopeOf node.id) declared.name
    else none

/-- The node is of a kind that declares symbols in the namespace. -/
def DeclaresIn (palette : Palette) (space : Namespace) (node : GraphNode) : Prop :=
  ∃ kind, palette.get? node.kind = some kind ∧ kind.shape.declaration? = some space

theorem DeclaresIn.apart
    (vars : palette.DeclaresIn .vars node)
    (functions : palette.DeclaresIn .functions node) :
    False := by
  obtain ⟨kind, available, declares⟩ := vars
  obtain ⟨twin, availableToo, declaresToo⟩ := functions
  rw [available, Option.some.injEq] at availableToo
  subst availableToo
  rw [declares] at declaresToo
  cases declaresToo

/-- A node declares the symbol of its kind in any surroundings where the same types feed it. -/
theorem declared?_of_available
    (members : Membership)
    {kind : NodeKind}
    (available : palette.get? node.kind = some kind)
    (inSpace : kind.shape.declaration? = some space)
    {context : SocketContext}
    (fed : context.feeds = feeds.getD node.id ∅) :
    palette.declared? space members feeds node =
      (kind.declaredSymbol node.stored context).map fun declared =>
        AnalysisSeat.boundSymbol node.id space declared (members.scopeOf node.id)
          declared.name := by
  have same : kind.declaredSymbol node.stored (.ofFeeds (feeds.getD node.id ∅)) =
      kind.declaredSymbol node.stored context :=
    kind.shape.declaredSymbol_congr (kind.configOf node.stored) fed.symm
  rw [declared?, available, Option.bind_some, if_pos inSpace, same]

theorem declared?_of_not_declaresIn
    (members : Membership)
    (feeds : GraphFeeds)
    (elsewhere : ¬ palette.DeclaresIn space node) :
    palette.declared? space members feeds node = none := by
  refine Option.bind_eq_none_iff.mpr fun kind available => if_neg fun inSpace => ?_
  exact elsewhere ⟨kind, available, inSpace⟩

theorem declared?_placed
    (declares : palette.declared? space members feeds node = some symbol) :
    symbol.scopeId = members.scopeOf node.id ∧ Text.isBlankText symbol.name = false := by
  obtain ⟨kind, -, inSpace⟩ := Option.bind_eq_some_iff.mp declares
  rw [Option.ite_none_right_eq_some] at inSpace
  obtain ⟨declared, found, rfl⟩ := Option.map_eq_some_iff.mp inSpace.2
  obtain ⟨named, inside⟩ := AnalysisSeat.name_boundSymbol node.id space declared
    (members.scopeOf node.id) declared.name
  obtain ⟨stripped, visible⟩ :=
    Shape.name_of_declaredSymbol kind.shape (kind.configOf node.stored) found
  refine ⟨inside, ?_⟩
  have kept : (Text.strip declared.name).isEmpty = false := by rw [stripped, visible]
  have shown := Text.isBlankText_strip kept
  rwa [stripped, ← named] at shown

/-- A node declares a variable if it sets one, of the type that feeds its value. -/
theorem declared?_vars (palette : Palette) (members : Membership) (feeds : GraphFeeds)
    (node : GraphNode) :
    palette.declared? .vars members feeds node = (palette.setName? node).map fun name =>
      { Symbol.ofVariable name ((Graph.feedOf? feeds node.id "value").getD .any) with
        scopeId := members.scopeOf node.id } := by
  unfold declared? setName?
  cases palette.get? node.kind with
  | none => rfl
  | some kind =>
      rw [Option.bind_some, Option.bind_some]
      unfold NodeKind.declaredSymbol
      generalize kind.configOf node.stored = config
      generalize kind.shape = shape at config
      cases shape with
      | variableSet =>
          simp only [Shape.declaration?, if_true, Shape.declaredSymbol, Shape.setName?]
          split <;> rfl
      | _ => rfl

end Palette

/-! ## Variables that a graph sets -/

namespace Graph

open Registry (AgreesOnName)

variable {graph : Graph} {palette : Palette} {document : String} {members : Membership}
variable {registry : Registry} {node : GraphNode} {name : String}

/-- The symbols that the nodes of a graph declare in a namespace. -/
def declaredIn
    (graph : Graph)
    (palette : Palette)
    (space : Namespace)
    (members : Membership)
    (feeds : GraphFeeds) :
    List Symbol :=
  graph.nodes.filterMap (palette.declared? space members feeds)

/-- A node sets a variable, and no later node of the graph sets the same one. -/
def LastToSet
    (graph : Graph)
    (palette : Palette)
    (members : Membership)
    (node : GraphNode)
    (name : String) :
    Prop :=
  palette.setName? node = some name ∧ ∃ earlier later, graph.nodes = earlier ++ node :: later ∧
    ∀ other ∈ later, palette.setName? other = some name →
      members.scopeOf other.id ≠ members.scopeOf node.id

/-- The only node to set a variable is the last one. -/
theorem lastToSet_of_only
    (distinct : (graph.nodes.map GraphNode.id).Nodup)
    (member : node ∈ graph.nodes)
    (sets : palette.setName? node = some name)
    (only : ∀ other ∈ graph.nodes, palette.setName? other = some name →
      members.scopeOf other.id = members.scopeOf node.id → other.id = node.id) :
    graph.LastToSet palette members node name := by
  obtain ⟨earlier, later, split⟩ := List.append_of_mem member
  refine ⟨sets, earlier, later, split, fun other among setsToo inside => ?_⟩
  have same := only other (by simp [split, among]) setsToo inside
  rw [split, List.map_append, List.map_cons, List.nodup_append, List.nodup_cons] at distinct
  exact distinct.2.1.1 (same ▸ List.mem_map_of_mem among)

theorem exists_of_mem_declaredIn_vars
    {feeds : GraphFeeds}
    {nodes : List GraphNode}
    {symbol : Symbol}
    (among : symbol ∈ nodes.filterMap (palette.declared? .vars members feeds)) :
    ∃ node ∈ nodes, palette.setName? node = some symbol.name ∧
      symbol.scopeId = members.scopeOf node.id := by
  obtain ⟨node, member, declares⟩ := List.mem_filterMap.mp among
  rw [Palette.declared?_vars] at declares
  obtain ⟨name, sets, rfl⟩ := Option.map_eq_some_iff.mp declares
  exact ⟨node, member, sets, rfl⟩

/-- A name that no node sets means what it meant before the variables are declared. -/
theorem agreesOnName_of_unset
    (reachable : registry.Reachable)
    (feeds : GraphFeeds)
    (unset : ∀ node ∈ graph.nodes, palette.setName? node ≠ some name) :
    AgreesOnName .vars document name registry
      (registry.declareEach .vars document (graph.declaredIn palette .vars members feeds)) := by
  refine (Registry.agreesOnName_declareEach reachable fun symbol among _ same => ?_).symm
  obtain ⟨node, member, sets, -⟩ := exists_of_mem_declaredIn_vars among
  exact unset node member (same ▸ sets)

/-- Declaring variables changes the meaning of no function. -/
theorem comparable_declareVars
    (reachable : registry.Reachable)
    (seated : graph.Seated document members registry)
    (feeds : GraphFeeds) :
    graph.Comparable document members registry
      (registry.declareEach .vars document (graph.declaredIn palette .vars members feeds)) where
  leftConsistent := reachable.consistent document
  rightConsistent := (reachable.declareEach .vars document _).consistent document
  seated := seated
  functions := fun _ =>
    (Registry.agreesOnName_declareEach reachable fun _ _ space => by cases space).symm

/-- The last node to set a variable determines its type: that of what feeds the node. -/
theorem LastToSet.exists_variable
    (last : graph.LastToSet palette members node name)
    (seated : graph.Seated document members registry)
    (feeds : GraphFeeds) :
    ∃ found, ((registry.declareEach .vars document
        (graph.declaredIn palette .vars members feeds)).table .vars).lookup? document
          ⟨members.scopeOf node.id, name⟩ = some found ∧
      found.type = (feedOf? feeds node.id "value").getD .any := by
  obtain ⟨sets, earlier, later, split, others⟩ := last
  have declares : palette.declared? .vars members feeds node =
      some { Symbol.ofVariable name ((feedOf? feeds node.id "value").getD .any) with
        scopeId := members.scopeOf node.id } := by
    rw [Palette.declared?_vars, sets, Option.map_some]
  obtain ⟨-, named⟩ := Palette.declared?_placed declares
  rw [declaredIn, split, List.filterMap_append, List.filterMap_cons_some declares]
  refine Registry.lookup?_declareEach_of_last named (seated node (by simp [split])) ?_
  intro other among same
  obtain ⟨setter, member, setsToo, inside⟩ := exists_of_mem_declaredIn_vars among
  obtain ⟨sameScope, sameName⟩ := SymbolKey.mk.inj same
  refine others setter member ?_ (inside.symm.trans sameScope)
  rw [setsToo]
  exact congrArg some sameName

end Graph

end LuauNodes
