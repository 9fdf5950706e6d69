import LuauNodes.Node.Palette

/-!
# Artifacts

How symbols, scopes, sockets and diagnostics are written as JSON.  A record
holds its own fields in their order, a set becomes a sorted list, and a tag
becomes its written form.  Raw bytes have no written form.
-/

namespace LuauNodes

/-- A parameter as JSON. -/
def Parameter.toJson (parameter : Parameter) : Json :=
  .object [("name", .text parameter.name), ("type", .text parameter.type.tag)]

/-- The fields of a signature. -/
def Signature.toFields (signature : Signature) : List (String × Json) :=
  [("parameters", .list (signature.parameters.map Parameter.toJson)),
   ("return_type", .text signature.returnType.tag), ("node_id", .ofText? signature.nodeId)]

/-- The fields of a symbol, those of its signature last. -/
def Symbol.toFields (symbol : Symbol) : List (String × Json) :=
  [("name", .text symbol.name), ("type", .text symbol.type.tag),
   ("scope_id", .ofText? symbol.scopeId), ("scope_type", .text symbol.scopeKind.tag),
   ("is_constant", .bool symbol.isConstant), ("initial_value", .ofText? symbol.initialValue),
   ("description", .ofText? symbol.description)] ++
    ((symbol.signature.map Signature.toFields).getD [])

/-- A symbol as JSON. -/
def Symbol.toJson (symbol : Symbol) : Json := .object symbol.toFields

/-- A scope as JSON. -/
def Scope.toJson (scope : Scope) : Json :=
  .object
    [("id", .text scope.id), ("scope_type", .text scope.kind.tag),
     ("parent_scope_id", .ofText? scope.parentId), ("owner_node_id", .ofText? scope.ownerNodeId),
     ("member_names", .ofTexts scope.memberNames.toList),
     ("child_scope_ids", .ofTexts scope.childIds.toList)]

/-- The fields of a socket. -/
def Socket.toFields (socket : Socket) : List (String × Json) :=
  [("id", .text socket.id), ("label", .ofText? socket.label), ("type", .text socket.type.tag),
   ("refined_type", .ofText? (socket.refined.map LuauType.tag))]

/-- A diagnostic as JSON. -/
def Diagnostic.toJson (diagnostic : Diagnostic) : Json :=
  .object
    [("code", .text diagnostic.code), ("severity", .text diagnostic.severity.tag),
     ("message", .text diagnostic.message), ("socket_id", .ofText? diagnostic.socketId)]

/-- The sockets of a node as JSON, with each socket written by the given function. -/
def NodeSockets.toJsonWith (socket : Socket → List (String × Json)) (sockets : NodeSockets) :
    Json :=
  .object
    [("inputs", .list (sockets.inputs.map fun input => .object (socket input))),
     ("outputs", .list (sockets.outputs.map fun output => .object (socket output))),
     ("status", .text sockets.status.tag),
     ("diagnostics", .list (sockets.diagnostics.map Diagnostic.toJson))]

/-- The sockets of a node as JSON. -/
def NodeSockets.toJson (sockets : NodeSockets) : Json := sockets.toJsonWith Socket.toFields

/-- Something to be written. -/
inductive Artifact where
  | json (value : Json)
  | names (members : NameSet)
  | numbers (members : List Int)
  | type (of : LuauType)
  | symbol (of : Symbol)
  | bytes
  | list (items : List Artifact)
  | object (entries : List (String × Artifact))

/-- Why something cannot be written. -/
inductive ArtifactFault where
  | unsupported (typeName : String)

/-- The wording of a fault. -/
def ArtifactFault.message : ArtifactFault → String
  | unsupported typeName => s!"Object of type {typeName} is not JSON serializable"

namespace Artifact

mutual

/-- An artifact as JSON. -/
def toJson : Artifact → Except ArtifactFault Json
  | json value => .ok value
  | names members => .ok (.ofTexts members.toList)
  | numbers members =>
    .ok (.list ((members.eraseDups.mergeSort fun left right => left ≤ right).map Json.int))
  | type tagged => .ok (.text tagged.tag)
  | symbol declared => .ok declared.toJson
  | bytes => .error (.unsupported "bytes")
  | list items => (itemsToJson items).map Json.list
  | object entries => (entriesToJson entries).map Json.object

/-- Artifacts as JSON. -/
def itemsToJson : List Artifact → Except ArtifactFault (List Json)
  | [] => .ok []
  | item :: rest =>
    match item.toJson, itemsToJson rest with
    | .ok written, .ok others => .ok (written :: others)
    | .error fault, _ => .error fault
    | _, .error fault => .error fault

/-- Named artifacts as JSON. -/
def entriesToJson : List (String × Artifact) → Except ArtifactFault (List (String × Json))
  | [] => .ok []
  | (name, item) :: rest =>
    match item.toJson, entriesToJson rest with
    | .ok written, .ok others => .ok ((name, written) :: others)
    | .error fault, _ => .error fault
    | _, .error fault => .error fault

end

end Artifact

end LuauNodes
