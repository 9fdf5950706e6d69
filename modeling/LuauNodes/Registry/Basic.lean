import LuauNodes.Registry.Notice
import LuauNodes.Registry.Visibility

/-!
# The registry

Symbols of both namespaces and the scopes that own them, document by document.
Every operation is a function from a registry to a change: the new registry, the
answer to the caller, the events that listeners are to be told, and the notices
for the log.  Events belong to the finished change, so a listener that is told
of one finds the registry in its new state.
-/

namespace LuauNodes

/-- The symbols and scopes of an editing session. -/
structure Registry where
  vars : SymbolTable
  functions : SymbolTable
  scopes : ScopeTree

/-- The effect of an operation on a registry. -/
structure Change (α : Type) where
  registry : Registry
  result : α
  events : List Event
  notices : List Notice

namespace Change

/-- A change that is followed by another one. -/
def followedBy {α : Type} (first : Change α) (next : Registry → Change Unit) : Change α :=
  let second := next first.registry
  { registry := second.registry
    result := first.result
    events := first.events ++ second.events
    notices := first.notices ++ second.notices }

/-- A change with a further event. -/
def announcing {α : Type} (change : Change α) (event : Event) : Change α :=
  { change with events := change.events ++ [event] }

end Change

namespace Registry

/-- The registry without symbols and scopes. -/
def empty : Registry := ⟨∅, ∅, ∅⟩

instance : EmptyCollection Registry := ⟨empty⟩

instance : Inhabited Registry := ⟨empty⟩

/-- The symbols of a namespace. -/
def table (registry : Registry) : Namespace → SymbolTable
  | .vars => registry.vars
  | .functions => registry.functions

/-- Replaces the symbols of a namespace. -/
def setTable (registry : Registry) (space : Namespace) (table : SymbolTable) : Registry :=
  match space with
  | .vars => { registry with vars := table }
  | .functions => { registry with functions := table }

/-- A change that changes nothing. -/
def unchanged {α : Type} (registry : Registry) (result : α) (notices : List Notice) : Change α :=
  ⟨registry, result, [], notices⟩

/-! ## Questions -/

/-- The names of the symbols that a scope owns in either namespace. -/
def memberNames (registry : Registry) (document : String) (scopeId : Option String) : NameSet :=
  NameSet.ofList
    (((registry.vars.listIn document scopeId) ++
      (registry.functions.listIn document scopeId)).map Symbol.name)

/-- The symbols of a namespace that are visible from a scope. -/
def visible
    (registry : Registry)
    (space : Namespace)
    (document : String)
    (scopeId : Option String) :
    Except TreeFault (List Symbol) :=
  visibleSymbols (registry.table space) registry.scopes document scopeId

/-- The symbol of a namespace that a name means in a scope. -/
def resolve
    (registry : Registry)
    (space : Namespace)
    (document name : String)
    (scopeId : Option String) :
    Except TreeFault (Option Symbol) :=
  resolveSymbol (registry.table space) registry.scopes document name scopeId

/-- The variables visible from the current scope, or all of them where no scope is active. -/
def visibleFromCurrent (registry : Registry) (document : String) :
    Except TreeFault (List Symbol) :=
  match registry.scopes.current? document with
  | none => .ok (registry.vars.list document)
  | some scopeId => registry.visible .vars document (some scopeId)

/-- Every document that has symbols or scopes, in increasing order. -/
def documents (registry : Registry) : List String :=
  (NameSet.ofList
    (registry.vars.documentIds ++ registry.functions.documentIds ++
      registry.scopes.documentIds)).toList

/-! ## Symbols -/

/-- Brings the member names of a scope up to date with the symbols that it owns. -/
def syncMembers (registry : Registry) (document : String) (scopeId : Option String) : Registry :=
  { registry with
    scopes := registry.scopes.setMembers document scopeId
      (registry.memberNames document scopeId) }

/-- Declares a symbol in the scope that it names.  A blank name and a scope that is not stored
are refused. -/
def declare (registry : Registry) (space : Namespace) (document : String) (symbol : Symbol) :
    Change (Option Symbol) :=
  if Text.isBlankText symbol.name then registry.unchanged none []
  else
    match symbol.scopeId, registry.scopes.has document symbol.scopeId with
    | some scopeId, false =>
      registry.unchanged none [.declareIntoMissingScope space document symbol.name scopeId]
    | _, _ =>
      let stored := { symbol with scopeKind := registry.scopes.kindOf document symbol.scopeId }
      let table := registry.table space
      ⟨(registry.setTable space (table.declare document stored)).syncMembers document
          symbol.scopeId,
        some stored,
        [⟨document, space.eventKind, some symbol.name, symbol.scopeId⟩],
        [.symbolDeclared space document stored (table.lookup? document stored.key).isSome]⟩

/-- The names of some fields in increasing order. -/
def fieldNames (fields : Record.Fields) : List String :=
  (fields.map (·.1)).mergeSort fun left right => left ≤ right

/-- Changes fields of a symbol; the kind of its scope is not the caller's to change. -/
def revise
    (registry : Registry)
    (space : Namespace)
    (document name : String)
    (scopeId : Option String)
    (fields : Record.Fields) :
    Change (Option Symbol) :=
  let fields := fields.filter fun field => field.1 != "scope_type"
  match (registry.table space).revise document ⟨scopeId, name⟩ fields with
  | .missing => registry.unchanged none []
  | .rejected faults =>
    registry.unchanged none [.symbolUpdateRejected space document name scopeId faults.length]
  | .revised symbol table =>
    ⟨registry.setTable space table,
      some symbol,
      [⟨document, space.eventKind, some name, scopeId⟩],
      [.symbolUpdated space document name (fieldNames fields)]⟩

/-- Removes the symbol at a key. -/
def remove
    (registry : Registry)
    (space : Namespace)
    (document name : String)
    (scopeId : Option String) :
    Change (Option Symbol) :=
  let key : SymbolKey := ⟨scopeId, name⟩
  match (registry.table space).lookup? document key with
  | none => registry.unchanged none []
  | some symbol =>
    ⟨(registry.setTable space ((registry.table space).remove document key)).syncMembers document
        scopeId,
      some symbol,
      [⟨document, space.eventKind, some name, scopeId⟩],
      [.symbolRemoved space document name scopeId]⟩

/-- Removes every symbol of a namespace from a document. -/
def clearSymbols (registry : Registry) (space : Namespace) (document : String) : Change Unit :=
  let touched := ((registry.table space).list document).map Symbol.scopeId
  let cleared := registry.setTable space ((registry.table space).clear document)
  ⟨touched.foldl (fun rest scopeId => rest.syncMembers document scopeId) cleared,
    (),
    [⟨document, space.eventKind, none, none⟩],
    []⟩

/-! ## Scopes -/

/-- The notice of a refused scope. -/
def refusalNotice (document scopeId : String) : Refusal → Notice
  | .parentMissing parentId => .scopeParentMissing document scopeId parentId
  | .cycle parentId => .scopeCycleRejected document scopeId parentId

/-- Completes the creation or the move of a scope. -/
def settleScope (registry : Registry) (document scopeId : String) (notice : Notice) :
    Change (Option Scope) :=
  let settled := registry.syncMembers document (some scopeId)
  ⟨settled,
    settled.scopes.get? document (some scopeId),
    [⟨document, .scopesChanged, none, some scopeId⟩],
    [notice]⟩

/-- Creates a scope, or moves the stored scope with its identifier. -/
def createScope (registry : Registry) (document : String) (scope : Scope) :
    Except TreeFault (Change (Option Scope)) :=
  match registry.scopes.create document scope with
  | .error fault => .error fault
  | .ok (.refused reason) =>
    .ok (registry.unchanged none [refusalNotice document scope.id reason])
  | .ok (.created stored tree) =>
    .ok ({ registry with scopes := tree }.settleScope document scope.id
      (.scopeCreated document stored))
  | .ok (.moved stored tree) =>
    .ok ({ registry with scopes := tree }.settleScope document scope.id
      (.scopeReparented document scope.id stored.parentId))

/-- Removes the symbols of a namespace that a scope owns. -/
def dropMembers (space : Namespace) (document scopeId : String) (registry : Registry) :
    Change Unit :=
  let table := registry.table space
  let keys := table.memberKeys document (some scopeId)
  let (held, remaining) := table.removeEach document keys
  ⟨registry.setTable space remaining,
    (),
    keys.map fun key => ⟨document, space.eventKind, some key.name, some scopeId⟩,
    held.map fun key => .symbolRemoved space document key.name key.scopeId⟩

/-- Removes the symbols of both namespaces that a scope owns. -/
def dropOwned (document : String) (change : Change (List String)) (scopeId : String) :
    Change (List String) :=
  (change.followedBy (dropMembers .vars document scopeId)).followedBy
    (dropMembers .functions document scopeId)

/-- Destroys a scope with everything below it, and removes every symbol that a destroyed scope
owned. -/
def destroyScope (registry : Registry) (document scopeId : String) : Change (List String) :=
  match registry.scopes.destroy document scopeId with
  | ([], _) => registry.unchanged [] []
  | (removed, tree) =>
    let destroyed : Change (List String) :=
      { registry := { registry with scopes := tree }
        result := removed
        events := []
        notices := [.scopeDestroyed document scopeId removed] }
    (removed.foldl (dropOwned document) destroyed).announcing
      ⟨document, .scopesChanged, none, some scopeId⟩

/-- Enters a stored scope. -/
def enterScope (registry : Registry) (document : String) (scopeId : Option String) :
    Change Bool :=
  match scopeId, registry.scopes.has document scopeId with
  | some inner, true =>
    ⟨{ registry with scopes := registry.scopes.enter document inner },
      true,
      [⟨document, .activeScopeChanged, none, some inner⟩],
      []⟩
  | _, _ => registry.unchanged false [.enterUnknownScope document scopeId]

/-- Leaves an active scope, wherever it stands on the stack. -/
def exitScope (registry : Registry) (document scopeId : String) : Change Bool :=
  if registry.scopes.isActive document scopeId then
    ⟨{ registry with scopes := registry.scopes.leave document scopeId },
      true,
      [⟨document, .activeScopeChanged, none, some scopeId⟩],
      []⟩
  else registry.unchanged false []

/-! ## Documents -/

/-- Removes everything that a document has. -/
def clearDocument (registry : Registry) (document : String) : Change Unit :=
  ⟨⟨registry.vars.clear document, registry.functions.clear document,
      registry.scopes.clear document⟩,
    (),
    [⟨document, .documentCleared, none, none⟩],
    []⟩

end Registry

end LuauNodes
