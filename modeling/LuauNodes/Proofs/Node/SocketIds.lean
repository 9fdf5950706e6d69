import LuauNodes.Proofs.Node.Display
import Mathlib.Data.List.Nodup

/-!
# The identifiers of sockets

An edge names the sockets that it joins.  On each side of a node every socket has
an identifier of its own, also where sockets are made on demand: one for each
branch, parameter or packed value, with a number in its identifier.  When more of
these are asked for, all sockets that were there before are still found under
their identifiers and keep their types, so that an edge to one of them is judged
as before.
-/

namespace LuauNodes

/-! ## Numbered identifiers -/

theorem numbered_injective (label : String) :
    Function.Injective fun place : Nat => label ++ toString place := by
  intro first second same
  have texts : first.repr = second.repr := (String.append_right_inj label).mp same
  have digits := congrArg String.toList texts
  rw [Nat.toList_repr, Nat.toList_repr] at digits
  rw [← Nat.ofDigitChars_ten_toDigits (n := first), digits, Nat.ofDigitChars_ten_toDigits]

/-- Numbered identifiers are distinct, and none is a fixed one that begins differently. -/
theorem nodup_append_numbered
    {fixed : List String}
    {label : String}
    (distinct : fixed.Nodup)
    (apart : ∀ id ∈ fixed, ¬ label.toList <+: id.toList)
    (count : Nat) :
    (fixed ++ (List.range count).map fun place => label ++ toString place).Nodup := by
  refine distinct.append (List.nodup_range.map (numbered_injective label)) ?_
  intro id among counted
  obtain ⟨place, -, rfl⟩ := List.mem_map.mp counted
  refine apart _ among ?_
  rw [String.toList_append]
  exact List.prefix_append _ _

theorem map_fst_numbered {α : Type} (items : List α) :
    (numbered items).map Prod.fst = List.range items.length :=
  List.map_fst_zip (Nat.le_of_eq List.length_range)

theorem numbered_append {α : Type} (items more : List α) :
    ∃ rest, numbered (items ++ more) = numbered items ++ rest := by
  rw [numbered, List.length_append, List.range_add]
  exact ⟨_, List.zip_append List.length_range⟩

/-! ## Distinct identifiers -/

/-- No two sockets on one side of a node have the same identifier. -/
structure NodeSockets.Distinct (sockets : NodeSockets) : Prop where
  inputs : (sockets.inputs.map Socket.id).Nodup
  outputs : (sockets.outputs.map Socket.id).Nodup

theorem nodup_ifElseInputs (config : IfElseConfig) :
    ((ifElseInputs config).map Socket.id).Nodup := by
  simp only [ifElseInputs, List.map_cons, List.map_append, List.map_map]
  cases config.mainCondition.mode with
  | literal =>
      have fixed : ["execute", "condition"].Nodup := by simp
      exact nodup_append_numbered fixed (by decide) _
  | expression =>
      have fixed : ["execute"].Nodup := by simp
      exact nodup_append_numbered fixed (by decide) _

theorem nodup_ifElseOutputs (config : IfElseConfig) :
    ((ifElseOutputs config).map Socket.id).Nodup := by
  simp only [ifElseOutputs, List.map_cons, List.map_append, List.map_map]
  -- The numbered outputs stand between the fixed ones.
  refine (List.perm_append_comm.cons _).nodup_iff.mpr ?_
  cases config.showElse with
  | true =>
      have fixed : ["then", "else"].Nodup := by simp
      exact nodup_append_numbered fixed (by decide) _
  | false =>
      have fixed : ["then"].Nodup := by simp
      exact nodup_append_numbered fixed (by decide) _

theorem map_id_parameterSockets (parameters : List Parameter) :
    (parameterSockets parameters).map Socket.id =
      (List.range parameters.length).map fun place => "param-" ++ toString place := by
  rw [← map_fst_numbered, parameterSockets, List.map_map, List.map_map]
  rfl

theorem nodup_parameterSockets (parameters : List Parameter) :
    ("prev" :: (parameterSockets parameters).map Socket.id).Nodup := by
  have fixed : ["prev"].Nodup := by simp
  rw [map_id_parameterSockets]
  exact nodup_append_numbered fixed (by decide) _

theorem nodup_packSockets (count : Nat) :
    ("prev" :: (packSockets count).map Socket.id).Nodup := by
  have fixed : ["prev"].Nodup := by simp
  rw [packSockets, List.map_map]
  exact nodup_append_numbered fixed (by decide) _

theorem Shape.distinct_sockets (shape : Shape) (config : shape.Config) (context : SocketContext) :
    (shape.sockets config context).Distinct := by
  cases shape with
  | operator operand result operands =>
      simp only [sockets, operatorSockets]
      split
      · refine ⟨?_, by simp [NodeSockets.sound]⟩
        have both : ["a", "b"].Nodup := by simp
        exact both.sublist (by
          rw [NodeSockets.sound, operandSockets, List.map_take]
          exact List.take_sublist _ _)
      · constructor <;> simp [NodeSockets.reporting]
  | ifElse => exact ⟨nodup_ifElseInputs config, nodup_ifElseOutputs config⟩
  | whileLoop | repeatUntil | returnValue =>
      simp only [sockets, statementSockets]
      split <;> constructor <;>
        simp [NodeSockets.sound, NodeSockets.reporting, nextFlow, Socket.labelled]
  | forLoop =>
      simp only [sockets, forLoopSockets]
      split <;> constructor <;> simp [NodeSockets.reporting, Socket.labelled]
  | functionCall =>
      simp only [sockets, functionCallSockets]
      split
      · exact ⟨nodup_parameterSockets _, by simp [NodeSockets.sound, Socket.labelled]⟩
      · split <;> constructor <;> simp [NodeSockets.sound, Socket.labelled]
  | tablePack =>
      exact ⟨nodup_packSockets _, by simp [sockets, NodeSockets.sound, nextFlow, Socket.labelled]⟩
  | string | number | boolean | variableGet | variableSet | functionDefinition =>
      constructor <;>
        simp [sockets, valueSockets, variableGetSockets, variableSetSockets,
          functionDefinitionSockets, NodeSockets.reporting, Socket.labelled]
  | tableConcat | tableForeach | tableCreate | tableFind | tableInsert | tableMove | tableRemove
    | tableSort | tableUnpack =>
      simp only [sockets]
      split <;> constructor <;>
        simp [NodeSockets.sound, tableStatement, nextFlow, Socket.labelled]
  | _ =>
      constructor <;>
        simp [sockets, NodeSockets.sound, tableStatement, nextFlow, Socket.labelled, Socket.plain]

/-! ## Sockets that stay -/

/-- What edges go by: the identifier of a socket and its type. -/
def Socket.formal (socket : Socket) : String × LuauType := (socket.id, socket.type)

namespace NodeSockets

variable {before after : NodeSockets}

/-- Every socket is still there, on its side and with its identifier and type. -/
structure Included (before after : NodeSockets) : Prop where
  inputs : before.inputs.map Socket.formal ⊆ after.inputs.map Socket.formal
  outputs : before.outputs.map Socket.formal ⊆ after.outputs.map Socket.formal

/-- Every socket that was found under an identifier is found under it again, on the same side and
with the same type. -/
structure KeptBy (before after : NodeSockets) : Prop where
  inputs : ∀ id socket, before.input? id = some socket →
    ∃ now, after.input? id = some now ∧ now.type = socket.type
  outputs : ∀ id socket, before.output? id = some socket →
    ∃ now, after.output? id = some now ∧ now.type = socket.type

/-- An edge that joins a socket of the node to another node is judged the same. -/
def KeepsEdges (before after : NodeSockets) : Prop :=
  ∀ (other : NodeSockets) (handle otherHandle : Option String) (name otherName : String),
    ((handle.bind before.output?).isSome →
      checkConnection after handle other otherHandle name otherName =
        checkConnection before handle other otherHandle name otherName) ∧
    ((handle.bind before.input?).isSome →
      checkConnection other otherHandle after handle otherName name =
        checkConnection other otherHandle before handle otherName name)

theorem find?_kept
    {before after : List Socket}
    (included : before.map Socket.formal ⊆ after.map Socket.formal)
    (distinct : (after.map Socket.id).Nodup)
    {id : String}
    {socket : Socket}
    (found : (before.find? fun socket => socket.id == id) = some socket) :
    ∃ now, (after.find? fun socket => socket.id == id) = some now ∧ now.type = socket.type := by
  have named : socket.id = id := eq_of_beq (List.find?_some found :)
  obtain ⟨now, among, same⟩ :=
    List.mem_map.mp (included (List.mem_map_of_mem (List.mem_of_find?_eq_some found)))
  obtain ⟨sameId, sameType⟩ := Prod.mk.inj same
  cases again : after.find? fun socket => socket.id == id with
  | none => exact absurd (sameId.trans named) (by simpa using List.find?_eq_none.mp again now among)
  | some first =>
      have firstId : first.id = id := eq_of_beq (List.find?_some again :)
      obtain rfl : first = now := List.inj_on_of_nodup_map distinct
        (List.mem_of_find?_eq_some again) among (firstId.trans (sameId.trans named).symm)
      exact ⟨first, rfl, sameType⟩

theorem Included.keptBy (included : before.Included after) (distinct : after.Distinct) :
    before.KeptBy after where
  inputs := fun _ _ found => find?_kept included.inputs distinct.inputs found
  outputs := fun _ _ found => find?_kept included.outputs distinct.outputs found

theorem KeptBy.keepsEdges (kept : before.KeptBy after) : before.KeepsEdges after := by
  intro other handle otherHandle name otherName
  constructor
  · intro leaves
    obtain ⟨socket, found⟩ := Option.isSome_iff_exists.mp leaves
    obtain ⟨id, rfl, found⟩ := Option.bind_eq_some_iff.mp found
    obtain ⟨now, again, sameType⟩ := kept.outputs id socket found
    simp only [checkConnection, Option.bind_some, found, again, sameType]
  · intro arrives
    obtain ⟨socket, found⟩ := Option.isSome_iff_exists.mp arrives
    obtain ⟨id, rfl, found⟩ := Option.bind_eq_some_iff.mp found
    obtain ⟨now, again, sameType⟩ := kept.inputs id socket found
    simp only [checkConnection, Option.bind_some, found, again, sameType]

end NodeSockets

/-! ## More sockets -/

/-- The signature of the function that a call names. -/
def CallConfig.signature? (config : CallConfig) (context : SocketContext) : Option Signature :=
  if config.name.isEmpty then none else (context.functionNamed? config.name).bind Symbol.signature

/-- A node asks for more sockets: branches are appended to an if node, parameters to the function
that is called, or values to those that are packed. -/
inductive Shape.Grows :
    (shape : Shape) → shape.Config → SocketContext → shape.Config → SocketContext → Prop where
  | branches
      (config : IfElseConfig)
      (more : List ConditionBranch)
      (before after : SocketContext) :
      Grows .ifElse config before { config with elseIfBranches := config.elseIfBranches ++ more }
        after
  | parameters
      {config newConfig : CallConfig}
      {before after : SocketContext}
      {signature newSignature : Signature}
      (more : List Parameter)
      (called : config.signature? before = some signature)
      (calledAgain : newConfig.signature? after = some newSignature)
      (appended : newSignature.parameters = signature.parameters ++ more)
      (returns : newSignature.returnType = signature.returnType) :
      Grows .functionCall config before newConfig after
  | values
      (count more : Nat)
      (before after : SocketContext) :
      Grows .tablePack ⟨count⟩ before ⟨count + more⟩ after

theorem functionCallSockets_of_signature?
    {config : CallConfig}
    {context : SocketContext}
    {signature : Signature}
    (called : config.signature? context = some signature) :
    functionCallSockets config context =
      .sound (Socket.labelled "prev" "Prev" .flow :: parameterSockets signature.parameters)
        [Socket.labelled "next" "Next" .flow,
         Socket.labelled "result" "Result" signature.returnType] := by
  unfold CallConfig.signature? at called
  split at called
  · cases called
  · rename_i isNamed
    simp only [functionCallSockets, if_neg isNamed, called]

theorem ifElseInputs_sublist (config : IfElseConfig) (more : List ConditionBranch) :
    (ifElseInputs config).Sublist
      (ifElseInputs { config with elseIfBranches := config.elseIfBranches ++ more }) := by
  have wired : (branchesOf .literal config.elseIfBranches).length ≤
      (branchesOf .literal (config.elseIfBranches ++ more)).length := by
    rw [branchesOf, branchesOf, List.filter_append, List.length_append]
    exact Nat.le_add_right _ _
  exact .cons_cons _ (.append_left ((List.range_sublist.mpr wired).map _) _)

theorem ifElseOutputs_sublist (config : IfElseConfig) (more : List ConditionBranch) :
    (ifElseOutputs config).Sublist
      (ifElseOutputs { config with elseIfBranches := config.elseIfBranches ++ more }) := by
  have all : config.elseIfBranches.length ≤ (config.elseIfBranches ++ more).length := by
    rw [List.length_append]
    exact Nat.le_add_right _ _
  exact .cons_cons _ (.append_right ((List.range_sublist.mpr all).map _) _)

theorem parameterSockets_sublist (parameters more : List Parameter) :
    (parameterSockets parameters).Sublist (parameterSockets (parameters ++ more)) := by
  obtain ⟨rest, same⟩ := numbered_append parameters more
  rw [parameterSockets, parameterSockets, same, List.map_append]
  exact List.sublist_append_left _ _

theorem packSockets_sublist (count more : Nat) :
    (packSockets count).Sublist (packSockets (count + more)) :=
  (List.range_sublist.mpr (Nat.le_add_right count more)).map _

theorem Shape.Grows.included
    {shape : Shape}
    {config newConfig : shape.Config}
    {before after : SocketContext}
    (grows : shape.Grows config before newConfig after) :
    (shape.sockets config before).Included (shape.sockets newConfig after) := by
  cases grows with
  | branches config more =>
      exact
        { inputs := ((ifElseInputs_sublist config more).map _).subset
          outputs := ((ifElseOutputs_sublist config more).map _).subset }
  | parameters more called calledAgain appended returns =>
      simp only [sockets]
      rw [functionCallSockets_of_signature? called, functionCallSockets_of_signature? calledAgain,
        appended, returns]
      exact
        { inputs := (((parameterSockets_sublist _ more).cons_cons _).map _).subset
          outputs := List.Subset.refl _ }
  | values count more =>
      exact
        { inputs := (((packSockets_sublist count more).cons_cons _).map _).subset
          outputs := List.Subset.refl _ }

/-! ## Nodes -/

namespace NodeKind

theorem map_formal_refine (context : SocketContext) (sockets : List Socket) :
    (sockets.map (refine context)).map Socket.formal = sockets.map Socket.formal := by
  rw [List.map_map]
  exact List.map_congr_left fun socket _ =>
    Prod.ext (id_refine context socket) (type_refine context socket)

theorem distinct_resolve (kind : NodeKind) (stored : Json) (context : SocketContext) :
    (kind.resolve stored context).Distinct := by
  have distinct := kind.shape.distinct_sockets (kind.configOf stored) context
  refine ⟨?_, distinct.outputs⟩
  rw [resolve, map_id_refine]
  exact distinct.inputs

theorem keptBy_resolve
    {kind : NodeKind}
    {before after : Json}
    {config newConfig : kind.shape.Config}
    {context newContext : SocketContext}
    (accepted : kind.read before = .ok config)
    (acceptedAgain : kind.read after = .ok newConfig)
    (grows : kind.shape.Grows config context newConfig newContext) :
    (kind.resolve before context).KeptBy (kind.resolve after newContext) := by
  have config_eq := configOf_of_read accepted
  have newConfig_eq := configOf_of_read acceptedAgain
  refine NodeSockets.Included.keptBy ?_ (kind.distinct_resolve after newContext)
  have included := grows.included
  constructor
  · simp only [resolve, map_formal_refine, config_eq, newConfig_eq]
    exact included.inputs
  · simp only [resolve, config_eq, newConfig_eq]
    exact included.outputs

end NodeKind

/-- On each side of a node no two sockets have the same identifier, whatever is stored for it and
whatever surrounds it.  A node that asks for more sockets keeps those that it had: they are found
under their identifiers with their types, and edges to them are judged as before. -/
theorem socket_ids_identify (palette : Palette) :
    (∀ kindId stored context, (palette.sockets kindId stored context).Distinct) ∧
      ∀ kindId kind, palette.get? kindId = some kind →
        ∀ before after config newConfig context newContext,
          kind.read before = .ok config → kind.read after = .ok newConfig →
            kind.shape.Grows config context newConfig newContext →
              (palette.sockets kindId before context).KeptBy
                  (palette.sockets kindId after newContext) ∧
                (palette.sockets kindId before context).KeepsEdges
                  (palette.sockets kindId after newContext) := by
  constructor
  · intro kindId stored context
    unfold Palette.sockets
    split
    · exact ⟨List.nodup_nil, List.nodup_nil⟩
    · rename_i kind _
      exact kind.distinct_resolve stored context
  · intro kindId kind available before after config newConfig context newContext accepted
      acceptedAgain grows
    have kept := NodeKind.keptBy_resolve accepted acceptedAgain grows
    simp only [Palette.sockets, available]
    exact ⟨kept, kept.keepsEdges⟩

/-- An if node with a branch, as it is stored. -/
def branchingOnce : Json := .object [("elseIfBranches", .list [.object []])]

/-- The same if node with another branch. -/
def branchingTwice : Json :=
  .object [("elseIfBranches", .list [.object [], .object [("mode", .text "expression")]])]

theorem socket_ids_identify_ifElse :
    ∃ kind config newConfig, Palette.standard.get? "IfElse" = some kind ∧
      kind.read branchingOnce = .ok config ∧ kind.read branchingTwice = .ok newConfig ∧
        kind.shape.Grows config .empty newConfig .empty ∧
          (Palette.standard.sockets "IfElse" branchingOnce .empty).KeptBy
              (Palette.standard.sockets "IfElse" branchingTwice .empty) ∧
            (Palette.standard.sockets "IfElse" branchingOnce .empty).KeepsEdges
              (Palette.standard.sockets "IfElse" branchingTwice .empty) :=
  ⟨_, _, _, rfl, rfl, rfl, .branches _ [⟨"main", .expression, none⟩] _ _,
    (socket_ids_identify .standard).2 "IfElse" _ rfl branchingOnce branchingTwice _ _ _ _ rfl rfl
      (.branches _ [⟨"main", .expression, none⟩] _ _)⟩

end LuauNodes
