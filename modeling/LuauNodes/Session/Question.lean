import LuauNodes.Completion
import LuauNodes.Node.Palette

/-!
# Questions

What an editor asks a registry.  A question never changes the registry, and its
answer depends on nothing but the registry.
-/

namespace LuauNodes

/-- Something that an editor asks about a document. -/
inductive Question where
  | symbol (space : Namespace) (name : String) (scopeId : Option String)
  | resolve (space : Namespace) (name : String) (scopeId : Option String)
  | find (space : Namespace) (name : String)
  | symbols (space : Namespace)
  | variablesIn (scopeId : Option String)
  | visible (space : Namespace) (scopeId : Option String)
  | visibleFromCurrent
  | currentScope
  | activeScopes
  | scopes
  | scope (scopeId : Option String)
  | ancestors (scopeId : Option String)
  | descendants (scopeId : Option String)
  | scopeKind (scopeId : Option String)
  | hasScope (scopeId : Option String)
  | suggest (scopeId : Option String) (fragment : String)
    (filter : Option Completion.TypeFilter) (source : Completion.Source)
  | suggestAt (scopeId : Option String) (text : String) (cursor : Option Int)
    (filter : Option Completion.TypeFilter) (source : Completion.Source)

/-- What a registry replies. -/
inductive Reply where
  | flag (value : Bool)
  | text (value : Option String)
  | texts (values : List String)
  | symbol (value : Option Symbol)
  | symbols (values : List Symbol)
  | scope (value : Option Scope)
  | scopes (values : List Scope)
  | scopeKind (value : ScopeKind)
  | names (values : List Symbol)
  | namesAt (fragment : String) (values : List Symbol)

/-- The reply of a registry to a question about a document. -/
def Registry.reply (registry : Registry) (document : String) :
    Question → Except TreeFault Reply
  | .symbol space name scopeId =>
    .ok (.symbol ((registry.table space).lookup? document ⟨scopeId, name⟩))
  | .resolve space name scopeId =>
    (registry.resolve space document name scopeId).map Reply.symbol
  | .find space name => .ok (.symbol ((registry.table space).find? document name))
  | .symbols space => .ok (.symbols ((registry.table space).list document))
  | .variablesIn scopeId => .ok (.symbols (registry.vars.listIn document scopeId))
  | .visible space scopeId => (registry.visible space document scopeId).map Reply.symbols
  | .visibleFromCurrent => (registry.visibleFromCurrent document).map Reply.symbols
  | .currentScope => .ok (.text (registry.scopes.current? document))
  | .activeScopes => .ok (.texts (registry.scopes.stack document))
  | .scopes => .ok (.scopes (registry.scopes.list document))
  | .scope scopeId => .ok (.scope (registry.scopes.get? document scopeId))
  | .ancestors none => .ok (.texts [])
  | .ancestors (some scopeId) => (registry.scopes.ancestors document scopeId).map Reply.texts
  | .descendants none => .ok (.texts [])
  | .descendants (some scopeId) => .ok (.texts (registry.scopes.descendants document scopeId))
  | .scopeKind scopeId => .ok (.scopeKind (registry.scopes.kindOf document scopeId))
  | .hasScope scopeId => .ok (.flag (registry.scopes.has document scopeId))
  | .suggest scopeId fragment filter source =>
    (Completion.suggest registry document scopeId fragment filter source).map Reply.names
  | .suggestAt scopeId text cursor filter source =>
    let fragment := Completion.fragmentAtCursor text cursor
    (Completion.suggest registry document scopeId fragment filter source).map
      (Reply.namesAt fragment)

end LuauNodes
