import LuauNodes.Proofs.Graph.ShownTypes
import LuauNodes.Proofs.Registry.DataSymbols

/-!
# Feeds of data

Which outputs carry execution order is a matter of the nodes alone, as long as
all that is visible is about data: a variable that is read and a function that is
called then add sockets of data and no others.  So whether execution order feeds
the value of a set variable may be told before anything is declared.
-/

namespace LuauNodes

/-! ## Sockets -/

/-- Only the sockets by which a statement is reached and left carry execution order. -/
def NodeSockets.KeepsFlowApart (sockets : NodeSockets) : Prop :=
  ∀ socket ∈ sockets.inputs ++ sockets.outputs,
    socket.type = .flow → socket.id = "prev" ∨ socket.id = "next"

/-- The same outputs carry execution order, and the same edges end at a value. -/
structure NodeSockets.FlowAlike (left right : NodeSockets) : Prop where
  outputs : left.outputs.map (fun socket => (socket.id, socket.type.isFlow)) =
    right.outputs.map fun socket => (socket.id, socket.type.isFlow)
  value : ∀ handle, handleAmong handle left.inputs = some "value" ↔
    handleAmong handle right.inputs = some "value"

theorem NodeSockets.WiredAlike.flowAlike
    {left right : NodeSockets}
    (alike : left.WiredAlike right) :
    left.FlowAlike right where
  outputs := by rw [alike.outputs]
  value := fun handle => by
    rw [Graph.handleAmong_eq, alike.inputs, ← Graph.handleAmong_eq]

theorem LuauType.isFlow_eq_false_iff {type : LuauType} : type.isFlow = false ↔ type ≠ .flow := by
  simp [isFlow]

/-- An edge into a statement ends at a value only by its handle. -/
theorem handleAmong_prev_eq_value_iff {handle : Option String} {first : Socket}
    (reached : first.id = "prev") (rest : List Socket) :
    handleAmong handle (first :: rest) = some "value" ↔ handle = some "value" := by
  cases handle with
  | some handle => rfl
  | none => cases rest <;> simp [handleAmong, reached]

namespace SocketContext.ShowsData

variable {context : SocketContext}

/-- A call is reached, gets data, and gives data when it is left. -/
theorem functionCall (data : context.ShowsData) (config : CallConfig) :
    (functionCallSockets config context).outputs.map
        (fun socket => (socket.id, socket.type.isFlow)) = [("next", true), ("result", false)] ∧
      ∃ first rest, (functionCallSockets config context).inputs = first :: rest ∧
        first.id = "prev" ∧ ∀ socket ∈ rest, socket.type ≠ .flow := by
  unfold functionCallSockets
  dsimp only
  split
  · rename_i signature called
    have known : signature.IsData := by
      obtain ⟨symbol, found, own⟩ := Option.bind_eq_some_iff.mp called
      split at found
      · cases found
      · exact (data.functions symbol (List.mem_of_find?_eq_some found)).signature signature own
    refine ⟨?_, _, _, rfl, rfl, ?_⟩
    · have returned := LuauType.isFlow_eq_false_iff.mpr known.returnType
      simp only [NodeSockets.sound, List.map_cons, List.map_nil, Socket.labelled, returned]
      rfl
    · simp only [parameterSockets, List.forall_mem_map]
      intro entry among
      exact known.parameters entry.2 (List.of_mem_zip among).2
  · split <;>
      exact ⟨rfl, _, [], rfl, rfl, fun _ member => (List.not_mem_nil member).elim⟩

/-- What is read from a variable is data. -/
theorem variableGet (data : context.ShowsData) (config : VariableConfig) :
    (variableGetSockets config context).outputs.map
        (fun socket => (socket.id, socket.type.isFlow)) = [("value", false)] ∧
      (variableGetSockets config context).inputs = [] := by
  refine ⟨?_, rfl⟩
  unfold variableGetSockets
  extract_lets name found type
  have known : type ≠ .flow := by
    dsimp only [type]
    cases search : found with
    | none => nofun
    | some symbol =>
        dsimp only [found] at search
        split at search
        · cases search
        · exact (data.vars symbol (List.mem_of_find?_eq_some search)).type
  simp only [NodeSockets.reporting, List.map_cons, List.map_nil, Socket.labelled,
    LuauType.isFlow_eq_false_iff.mpr known]

end SocketContext.ShowsData

variable {left right : SocketContext}

theorem flowAlike_functionCall
    (config : CallConfig)
    (leftData : left.ShowsData)
    (rightData : right.ShowsData) :
    (functionCallSockets config left).FlowAlike (functionCallSockets config right) := by
  obtain ⟨outputs, first, rest, inputs, reached, -⟩ := leftData.functionCall config
  obtain ⟨twinOutputs, twin, twinRest, twinInputs, twinReached, -⟩ :=
    rightData.functionCall config
  refine ⟨outputs.trans twinOutputs.symm, fun handle => ?_⟩
  rw [inputs, twinInputs, handleAmong_prev_eq_value_iff reached,
    handleAmong_prev_eq_value_iff twinReached]

theorem flowAlike_variableGet
    (config : VariableConfig)
    (leftData : left.ShowsData)
    (rightData : right.ShowsData) :
    (variableGetSockets config left).FlowAlike (variableGetSockets config right) := by
  obtain ⟨outputs, inputs⟩ := leftData.variableGet config
  obtain ⟨twinOutputs, twinInputs⟩ := rightData.variableGet config
  refine ⟨outputs.trans twinOutputs.symm, fun handle => ?_⟩
  rw [inputs, twinInputs]

namespace Shape

/-- Which outputs carry execution order does not depend on what is visible, if that is data. -/
theorem flowAlike_sockets
    (shape : Shape)
    (config : shape.Config)
    (leftData : left.ShowsData)
    (rightData : right.ShowsData) :
    (shape.sockets config left).FlowAlike (shape.sockets config right) := by
  cases shape with
  | functionCall => exact flowAlike_functionCall config leftData rightData
  | variableGet => exact flowAlike_variableGet config leftData rightData
  | operator operand result operands =>
      simp only [sockets, operatorSockets]
      split <;> exact NodeSockets.WiredAlike.flowAlike ⟨rfl, rfl⟩
  | whileLoop | repeatUntil | returnValue =>
      simp only [sockets, statementSockets]
      split <;> exact NodeSockets.WiredAlike.flowAlike ⟨rfl, rfl⟩
  | forLoop =>
      simp only [sockets, forLoopSockets]
      split <;> exact NodeSockets.WiredAlike.flowAlike ⟨rfl, rfl⟩
  | _ => exact NodeSockets.WiredAlike.flowAlike ⟨rfl, rfl⟩

/-- A shape whose sockets are those of what it names. -/
def takesSocketsFromNames : Shape → Bool
  | variableGet | functionCall => true
  | _ => false

theorem keepsFlowApart_sockets
    (shape : Shape)
    (config : shape.Config)
    (takes : shape.takesSocketsFromNames = true)
    (data : left.ShowsData) :
    (shape.sockets config left).KeepsFlowApart := by
  have apart : ∀ {socket : Socket} {sockets : List Socket} {flags : List (String × Bool)},
      sockets.map (fun socket => (socket.id, socket.type.isFlow)) = flags → socket ∈ sockets →
        socket.type = .flow → (socket.id, true) ∈ flags := by
    rintro socket sockets _ rfl member flows
    refine List.mem_map.mpr ⟨socket, member, ?_⟩
    rw [flows]
    rfl
  cases shape with
  | variableGet =>
      obtain ⟨outputs, inputs⟩ := data.variableGet config
      intro socket member flows
      simp only [sockets, inputs, List.nil_append] at member
      have listed := apart outputs member flows
      simp at listed
  | functionCall =>
      obtain ⟨outputs, first, rest, inputs, reached, given⟩ := data.functionCall config
      intro socket member flows
      simp only [sockets, inputs] at member
      rcases List.mem_append.mp member with into | out
      · rcases List.mem_cons.mp into with rfl | later
        · exact Or.inl reached
        · exact absurd flows (given socket later)
      · have listed := apart outputs out flows
        simp only [List.mem_cons, Prod.mk.injEq, and_true, List.not_mem_nil, or_false] at listed
        simp_all
  | _ => cases takes

end Shape

namespace Palette

variable {palette : Palette} {node : GraphNode} {left right : SocketContext}

theorem flowAlike_sockets
    (palette : Palette)
    (node : GraphNode)
    (leftData : left.ShowsData)
    (rightData : right.ShowsData) :
    (palette.sockets node.kind node.stored left).FlowAlike
      (palette.sockets node.kind node.stored right) := by
  unfold Palette.sockets
  cases palette.get? node.kind with
  | none => exact (NodeSockets.WiredAlike.refl _).flowAlike
  | some kind =>
      have alike := kind.shape.flowAlike_sockets (kind.configOf node.stored) leftData rightData
      refine ⟨alike.outputs, fun handle => ?_⟩
      have refined : ∀ context sockets, handleAmong handle (sockets.map (NodeKind.refine context)) =
          handleAmong handle sockets := by
        intro context sockets
        rw [Graph.handleAmong_eq, NodeKind.map_id_refine, ← Graph.handleAmong_eq]
      dsimp only [NodeKind.resolve]
      rw [refined, refined]
      exact alike.value handle

/-- The nodes of a kind read variables or call functions. -/
def takesSocketsFromNames (palette : Palette) (kindId : String) : Bool :=
  (palette.get? kindId).any fun kind => kind.shape.takesSocketsFromNames

theorem keepsFlowApart_sockets
    (takes : palette.takesSocketsFromNames node.kind = true)
    (data : left.ShowsData) :
    (palette.sockets node.kind node.stored left).KeepsFlowApart := by
  obtain ⟨kind, available, takes⟩ := (Option.any_eq_true _ _).mp takes
  have own := kind.shape.keepsFlowApart_sockets (kind.configOf node.stored) takes data
  intro socket member flows
  rw [Palette.sockets, available] at member
  rcases List.mem_append.mp member with into | out
  · obtain ⟨original, among, rfl⟩ := List.mem_map.mp into
    rw [NodeKind.type_refine] at flows
    rw [NodeKind.id_refine]
    exact own original (List.mem_append_left _ among) flows
  · exact own socket (List.mem_append_right _ out) flows

end Palette

/-! ## Feeds -/

/-- What is found under an identifier carries execution order or not by the identifiers and flags
alone. -/
theorem isFlow_find? (sockets : List Socket) (id : String) :
    (sockets.find? fun socket => socket.id == id).map (fun socket => socket.type.isFlow) =
      ((sockets.map fun socket => (socket.id, socket.type.isFlow)).find? fun entry =>
        entry.1 == id).map (·.2) := by
  rw [List.find?_map, Option.map_map]
  rfl

namespace Graph

variable {leftNodes rightNodes : ResolvedNodes} {edge : GraphEdge}

theorem isFlow_sourceType?_congr
    (alike : Option.Rel NodeSockets.FlowAlike (leftNodes.get? edge.source)
      (rightNodes.get? edge.source)) :
    (sourceType? leftNodes edge).map LuauType.isFlow =
      (sourceType? rightNodes edge).map LuauType.isFlow := by
  have split : ∀ resolved : ResolvedNodes, (sourceType? resolved edge).map LuauType.isFlow =
      (((resolved.get? edge.source).bind fun source =>
        source.output? ((handleAmong edge.sourceHandle source.outputs).getD "")).map
          fun socket => socket.type.isFlow).or (edge.notedType?.map LuauType.isFlow) := by
    intro resolved
    unfold sourceType?
    dsimp only
    split <;> (rename_i found; rw [found]; rfl)
  rw [split, split]
  generalize leftNodes.get? edge.source = first at alike ⊢
  generalize rightNodes.get? edge.source = second at alike ⊢
  cases alike with
  | none => rfl
  | @some left right alike =>
      have ids : left.outputs.map Socket.id = right.outputs.map Socket.id := by
        have firsts := congrArg (List.map Prod.fst) alike.outputs
        rwa [List.map_map, List.map_map] at firsts
      rw [Option.bind_some, Option.bind_some, NodeSockets.output?, NodeSockets.output?,
        isFlow_find?, isFlow_find?, alike.outputs, handleAmong_eq, ids, ← handleAmong_eq]

theorem targetHandle?_eq_value_congr
    (alike : Option.Rel NodeSockets.FlowAlike (leftNodes.get? edge.target)
      (rightNodes.get? edge.target)) :
    targetHandle? leftNodes edge = some "value" ↔ targetHandle? rightNodes edge = some "value" := by
  unfold targetHandle?
  generalize leftNodes.get? edge.target = first at alike ⊢
  generalize rightNodes.get? edge.target = second at alike ⊢
  cases alike with
  | none => rfl
  | some alike =>
      simp only [Option.bind_some, Option.filter_eq_some_iff]
      rw [alike.value]

/-- Whether execution order feeds a value is a matter of which outputs carry it. -/
theorem isFlow_feedOf?_congr
    (graph : Graph)
    (alike : ∀ id, Option.Rel NodeSockets.FlowAlike (leftNodes.get? id) (rightNodes.get? id))
    (id : String) :
    (feedOf? (graph.feeds leftNodes) id "value").map LuauType.isFlow =
      (feedOf? (graph.feeds rightNodes) id "value").map LuauType.isFlow := by
  have into : ∀ edge ∈ graph.edges,
      (edge.target == id && targetHandle? leftNodes edge == some "value") =
        (edge.target == id && targetHandle? rightNodes edge == some "value") := by
    intro edge _
    have same := targetHandle?_eq_value_congr (alike edge.target)
    rw [Bool.eq_iff_iff]
    simp only [Bool.and_eq_true, beq_iff_eq, same]
  rw [feedOf?_feeds, feedOf?_feeds, List.filter_congr into, ← List.getLast?_map,
    ← List.getLast?_map, List.map_filterMap, List.map_filterMap]
  congr 2
  funext edge
  exact isFlow_sourceType?_congr (alike edge.source)

end Graph

/-- Maps that are written alike are alike. -/
theorem OrderedMap.rel_get?_ofList
    {κ α β : Type}
    [DecidableEq κ]
    {Alike : α → β → Prop}
    {left : List (κ × α)}
    {right : List (κ × β)}
    (paired : List.Forall₂ (fun first second => first.1 = second.1 ∧ Alike first.2 second.2) left
      right)
    (key : κ) :
    Option.Rel Alike ((ofList left).get? key) ((ofList right).get? key) := by
  let Maps (first : OrderedMap κ α) (second : OrderedMap κ β) : Prop :=
    ∀ key, Option.Rel Alike (first.get? key) (second.get? key)
  refine List.rel_foldl (P := Maps) ?_ (fun _ => .none) paired key
  rintro first second alike own twin ⟨same, related⟩ other
  rw [get?_insert, get?_insert, same]
  split
  · exact .some related
  · exact alike other

namespace Graph

/-! ## Graphs that declare data -/

/-- The sockets of the nodes while nothing is visible from any of them. -/
def bareSockets (graph : Graph) (palette : Palette) : ResolvedNodes :=
  .ofList (graph.nodes.map fun node =>
    (node.id, palette.sockets node.kind node.stored .empty))

/-- What the nodes of a graph are to declare, fed as they are while nothing is visible from any of
them, is about data. -/
def OffersData (graph : Graph) (palette : Palette) : Prop :=
  ∀ node ∈ graph.nodes, ∀ kind ∈ palette.get? node.kind,
    (∀ symbol ∈ kind.scopeSymbols node.stored, symbol.IsData) ∧
      ∀ symbol ∈ kind.declaredSymbol node.stored
        (.ofFeeds ((graph.feeds (graph.bareSockets palette)).getD node.id ∅)), symbol.IsData

instance (graph : Graph) (palette : Palette) : Decidable (graph.OffersData palette) :=
  inferInstanceAs (Decidable (∀ node ∈ graph.nodes, ∀ kind ∈ palette.get? node.kind, _ ∧ _))

/-- What the nodes of a graph declare in a namespace is about data, fed as they are. -/
def DeclaresData
    (graph : Graph)
    (palette : Palette)
    (space : Namespace)
    (feeds : GraphFeeds) :
    Prop :=
  ∀ node ∈ graph.nodes, ∀ kind, palette.get? node.kind = some kind →
    kind.shape.declaration? = some space → ∀ context : SocketContext,
      context.feeds = feeds.getD node.id ∅ →
        ∀ symbol ∈ kind.declaredSymbol node.stored context, symbol.IsData

/-- The sockets of the nodes while all that is visible from any of them is about data. -/
def ResolvedInData (graph : Graph) (palette : Palette) (resolved : ResolvedNodes) : Prop :=
  ∃ listed, resolved = .ofList listed ∧
    List.Forall₂ (fun node entry => ∃ context : SocketContext, context.ShowsData ∧
      entry = (node.id, palette.sockets node.kind node.stored context)) graph.nodes listed

namespace ResolvedInData

variable {graph : Graph} {palette : Palette} {resolved : ResolvedNodes}

theorem flowAlike (inData : graph.ResolvedInData palette resolved) (id : String) :
    Option.Rel NodeSockets.FlowAlike (resolved.get? id) ((graph.bareSockets palette).get? id) := by
  obtain ⟨listed, rfl, paired⟩ := inData
  refine OrderedMap.rel_get?_ofList ?_ id
  rw [List.forall₂_map_right_iff]
  refine paired.flip.imp ?_
  rintro _ node ⟨context, data, rfl⟩
  exact ⟨rfl, palette.flowAlike_sockets node data SocketContext.showsData_empty⟩

/-- A node that reads or calls keeps execution order apart from data, if no node of another kind
has its identifier. -/
theorem keepsFlowApart
    (inData : graph.ResolvedInData palette resolved)
    {node : GraphNode}
    (takes : palette.takesSocketsFromNames node.kind = true)
    (alone : ∀ other ∈ graph.nodes, other.id = node.id → other.kind = node.kind) :
    (resolved.getD node.id (.sound [] [])).KeepsFlowApart := by
  obtain ⟨listed, rfl, paired⟩ := inData
  rw [OrderedMap.getD]
  cases found : (OrderedMap.ofList listed).get? node.id with
  | none => exact fun socket member => (List.not_mem_nil member).elim
  | some sockets =>
      have among := OrderedMap.mem_of_get?_ofList_eq_some found
      obtain ⟨⟨place, short⟩, listedThere⟩ := List.mem_iff_get.mp among
      obtain ⟨long, each⟩ := List.forall₂_iff_get.mp paired
      obtain ⟨context, data, own⟩ := each place (by rwa [long]) short
      obtain ⟨same, rfl⟩ := Prod.mk.inj (listedThere.symm.trans own)
      have kind := alone _ (List.get_mem _ _) same.symm
      exact palette.keepsFlowApart_sockets (kind ▸ takes) data

end ResolvedInData

/-- What is fed without execution order is data, and so is what is not fed. -/
theorem getD_any_ne_flow
    {left right : Option LuauType}
    (same : left.map LuauType.isFlow = right.map LuauType.isFlow)
    (data : right.getD .any ≠ .flow) :
    left.getD .any ≠ .flow := by
  cases left with
  | none => nofun
  | some type =>
      cases right with
      | none => cases same
      | some other =>
          have flags := Option.some.inj same
          rw [Option.getD_some] at data ⊢
          rw [← LuauType.isFlow_eq_false_iff] at data ⊢
          exact flags.trans data

namespace OffersData

variable {graph : Graph} {palette : Palette} {resolved : ResolvedNodes}

/-- A function is about data whatever feeds the node that defines it. -/
theorem functions (offers : graph.OffersData palette) (feeds : GraphFeeds) :
    graph.DeclaresData palette .functions feeds := by
  intro node member kind available declares context _ symbol declared
  refine (offers node member kind available).2 symbol ?_
  unfold NodeKind.declaredSymbol at declared ⊢
  generalize kind.configOf node.stored = config at declared ⊢
  generalize kind.shape = shape at config declares
  cases shape with
  | functionDefinition => exact declared
  | _ => cases declares

/-- A variable is about data if it is while nothing is visible. -/
theorem vars
    (offers : graph.OffersData palette)
    (inData : graph.ResolvedInData palette resolved) :
    graph.DeclaresData palette .vars (graph.feeds resolved) := by
  intro node member kind available declares context fed symbol declared
  have bare := (offers node member kind available).2
  have same := isFlow_feedOf?_congr graph inData.flowAlike node.id
  rw [feedOf?, feedOf?, ← fed] at same
  unfold NodeKind.declaredSymbol at declared bare
  generalize kind.configOf node.stored = config at declared bare
  generalize kind.shape = shape at config declares
  cases shape with
  | variableSet =>
      simp only [Shape.declaredSymbol, Option.mem_def, Option.ite_none_right_eq_some,
        Option.some.injEq] at declared bare
      obtain ⟨declarable, rfl⟩ := declared
      have known := bare _ ⟨declarable, rfl⟩
      rw [Symbol.isData_ofVariable_iff] at known ⊢
      exact getD_any_ne_flow same known
  | _ => cases declares

end OffersData

end Graph

end LuauNodes
