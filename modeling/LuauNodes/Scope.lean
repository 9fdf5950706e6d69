import LuauNodes.Collection.NameSet
import LuauNodes.Symbol

/-!
# Scopes

A lexical region that a node introduces, with the names declared in it and the
regions directly inside it.
-/

namespace LuauNodes

open LuauNodes.Record

/-- A lexical region. -/
structure Scope where
  id : String
  kind : ScopeKind
  parentId : Option String
  ownerNodeId : Option String
  memberNames : NameSet
  childIds : NameSet
  deriving DecidableEq

/-- A region that is empty as yet. -/
def Scope.fresh
    (id : String)
    (kind : ScopeKind)
    (parentId : Option String)
    (ownerNodeId : Option String) :
    Scope :=
  ⟨id, kind, parentId, ownerNodeId, ∅, ∅⟩

/-- Reads a scope. -/
def Scope.read : Reader Scope :=
  record "Scope" fun fields =>
    Scope.mk
      <$> required (.same "id") text fields
      <*> required (.same "scope_type") ScopeKind.read fields
      <*> optional (.same "parent_scope_id") none (nullable text) fields
      <*> optional (.same "owner_node_id") none (nullable text) fields
      <*> optional (.same "member_names") ∅ (fun value => (textSet value).map NameSet.ofList)
        fields
      <*> optional (.same "child_scope_ids") ∅ (fun value => (textSet value).map NameSet.ofList)
        fields

end LuauNodes
