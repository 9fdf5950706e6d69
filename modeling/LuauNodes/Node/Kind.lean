import LuauNodes.Node.Sockets

/-!
# Kinds of nodes

A kind of node is a shape with a name, a place in the editor's menus and, where
its nodes own a scope, the outputs that lead into it.  A stored configuration
that cannot be read is replaced by the one where nothing is set, and the node
shows what was wrong with it.
-/

namespace LuauNodes

/-- A kind of node. -/
structure NodeKind where
  id : String
  category : String
  displayName : String
  description : String
  shape : Shape
  scopeKind : Option ScopeKind
  bodyOutputs : List String
  declares : Option Namespace

/-- A kind that owns no scope and declares nothing. -/
def NodeKind.plain (category id displayName description : String) (shape : Shape) : NodeKind :=
  ⟨id, category, displayName, description, shape, none, [], none⟩

/-! ## Body outputs -/

/-- A socket fits a pattern: it is the pattern itself, or the pattern ends in a star and the
socket begins with what stands before it. -/
def fitsPattern (pattern socketId : String) : Bool :=
  pattern == socketId ||
    pattern.toList.getLast? == some '*' && pattern.toList.dropLast.isPrefixOf socketId.toList

/-- A socket fits one of some patterns. -/
def isBodyOutput (patterns : List String) (socketId : String) : Bool :=
  patterns.any fun pattern => fitsPattern pattern socketId

/-- The output leads into the scope that the node owns. -/
def NodeKind.isBodyOutput (kind : NodeKind) (socketId : String) : Bool :=
  LuauNodes.isBodyOutput kind.bodyOutputs socketId

/-! ## Stored configurations -/

/-- Why stored data is not a set of named fields. -/
inductive FieldsFault where
  | notIterable (typeName : String)
  | notSequence (place : Nat)
  | wrongLength (place length : Nat)
  | unhashable (typeName : String)

/-- The wording of a fault of stored data. -/
def FieldsFault.message : FieldsFault → String
  | notIterable typeName => s!"'{typeName}' object is not iterable"
  | notSequence place =>
    s!"cannot convert dictionary update sequence element #{place} to a sequence"
  | wrongLength place length =>
    s!"dictionary update sequence element #{place} has length {length}; 2 is required"
  | unhashable typeName => s!"unhashable type: '{typeName}'"

/-- The members of a value that has members: of an object its names, of a text its characters. -/
def membersOf? : Json → Option (List Json)
  | .list items => some items
  | .object entries => some (entries.map fun entry => .text entry.1)
  | .text value => some (value.toList.map fun c => .text (String.singleton c))
  | _ => none

/-- Reads fields from a list of pairs; only names that are texts are kept. -/
def pairFields (place : Nat) (done : Record.Fields) : List Json → Except FieldsFault Record.Fields
  | [] => .ok done
  | item :: rest =>
    match membersOf? item with
    | none => .error (.notSequence place)
    | some [.list _, _] => .error (.unhashable "list")
    | some [.object _, _] => .error (.unhashable "dict")
    | some [.text name, value] => pairFields (place + 1) (Json.putEntry name value done) rest
    | some [_, _] => pairFields (place + 1) done rest
    | some members => .error (.wrongLength place members.length)

/-- The fields that stored data holds: those of an object, or of a list of pairs; what is empty,
zero or absent has none. -/
def storedFields (stored : Json) : Except FieldsFault Record.Fields :=
  if !stored.isTruthy then .ok []
  else
    match stored with
    | .object fields => .ok fields
    | .list items => pairFields 0 [] items
    | .text value => pairFields 0 [] ((membersOf? (.text value)).getD [])
    | .bool _ => .error (.notIterable "bool")
    | .int _ => .error (.notIterable "int")
    | .float _ => .error (.notIterable "float")
    | .null => .ok []

namespace NodeKind

/-- A configuration, or what is wrong with the stored data. -/
def read (kind : NodeKind) (stored : Json) : Except String kind.shape.Config :=
  match storedFields stored with
  | .error fault => .error fault.message
  | .ok fields =>
    match kind.shape.read fields with
    | .ok config => .ok config
    | .bad faults => .error (Record.faultsMessage faults)

/-- The configuration that stored data stands for, whatever is wrong with it. -/
def configOf (kind : NodeKind) (stored : Json) : kind.shape.Config :=
  match kind.read stored with
  | .ok config => config
  | .error _ => kind.shape.initial

theorem configOf_of_read
    {kind : NodeKind}
    {stored : Json}
    {config : kind.shape.Config}
    (accepted : kind.read stored = .ok config) :
    kind.configOf stored = config := by
  rw [configOf, accepted]

/-- What is wrong with stored data. -/
def configDetails? (kind : NodeKind) (stored : Json) : Option String :=
  match kind.read stored with
  | .ok _ => none
  | .error details => some details

/-- The diagnostics of stored data. -/
def configDiagnostics (kind : NodeKind) (stored : Json) : List Diagnostic :=
  match kind.configDetails? stored with
  | none => []
  | some details => [.error (.invalidConfiguration kind.id details)]

/-- The notices of one reading of stored data. -/
def configNotices (kind : NodeKind) (stored : Json) : List Notice :=
  match kind.configDetails? stored with
  | none => []
  | some details => [.nodeConfigInvalid kind.id details]

/-! ## Sockets and symbols -/

/-- An input of the wildcard type shows the type that feeds it, if that is a type of data other
than the wildcard. -/
def refine (context : SocketContext) (socket : Socket) : Socket :=
  if socket.type != .any then socket
  else
    match context.feed? socket.id with
    | none => socket
    | some type =>
      if type == .any || type == .flow then socket else { socket with refined := some type }

/-- The sockets of a node with stored data.  Any error makes the node invalid. -/
def resolve (kind : NodeKind) (stored : Json) (context : SocketContext) : NodeSockets :=
  let sockets := kind.shape.sockets (kind.configOf stored) context
  let diagnostics := kind.configDiagnostics stored ++ sockets.diagnostics
  ⟨sockets.inputs.map (refine context),
    sockets.outputs,
    if diagnostics.any Diagnostic.isError then sockets.status.worst .invalid else sockets.status,
    diagnostics⟩

/-- The symbols that a node with stored data places inside its own scope. -/
def scopeSymbols (kind : NodeKind) (stored : Json) : List Symbol :=
  kind.shape.scopeSymbols (kind.configOf stored)

/-- The symbol that a node with stored data declares in the scope that it sits in. -/
def declaredSymbol (kind : NodeKind) (stored : Json) (context : SocketContext) : Option Symbol :=
  kind.shape.declaredSymbol (kind.configOf stored) context

end NodeKind

/-- The scope that a node owns has an identifier made of the node's and the kind of the scope. -/
def scopeIdFor (nodeId : String) (kind : ScopeKind) : String :=
  nodeId ++ "-" ++ kind.tag ++ "-scope"

end LuauNodes
