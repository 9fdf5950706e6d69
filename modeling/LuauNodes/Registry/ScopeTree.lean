import LuauNodes.Collection.OrderedMap
import LuauNodes.Scope

/-!
# Scope trees

The scopes of every document, and in each document the stack of scopes that are
entered.  A scope is created under a scope that exists, and an existing scope may
move anywhere but below itself, so that every chain of parents ends at the
implicit global scope.  The stack is ordered by the time of the last entry.
-/

namespace LuauNodes

/-- The scopes of a document by their identifiers. -/
abbrev ScopeEntries := OrderedMap String Scope

/-- The scopes and the entered scopes of every document. -/
structure ScopeTree where
  scopes : OrderedMap String ScopeEntries
  active : OrderedMap String (List String)

/-- Why the structure of a tree cannot be followed or extended. -/
inductive TreeFault where
  /-- The global scope cannot be created. -/
  | globalScope
  /-- A chain of parents comes back to a scope that it has passed. -/
  | cycle (document scopeId : String)

/-- Why a scope is not created. -/
inductive Refusal where
  | parentMissing (parentId : String)
  | cycle (parentId : String)

/-- What became of a request to create a scope. -/
inductive Creation where
  | refused (reason : Refusal)
  | created (scope : Scope) (tree : ScopeTree)
  | moved (scope : Scope) (tree : ScopeTree)

namespace ScopeTree

/-- The tree without scopes. -/
def empty : ScopeTree := ⟨∅, ∅⟩

instance : EmptyCollection ScopeTree := ⟨empty⟩

instance : Inhabited ScopeTree := ⟨empty⟩

/-! ## The parts of a document -/

/-- The scopes of a document. -/
def entries (tree : ScopeTree) (document : String) : ScopeEntries :=
  tree.scopes.getD document ∅

/-- Replaces the scopes of a document; without scopes the document is dropped. -/
def setEntries (tree : ScopeTree) (document : String) (entries : ScopeEntries) : ScopeTree :=
  if entries.isEmpty then { tree with scopes := tree.scopes.erase document }
  else { tree with scopes := tree.scopes.insert document entries }

/-- The entered scopes of a document, the one entered last at the end. -/
def stack (tree : ScopeTree) (document : String) : List String :=
  tree.active.getD document []

/-- Replaces the entered scopes of a document; an empty stack is dropped. -/
def setStack (tree : ScopeTree) (document : String) (stack : List String) : ScopeTree :=
  if stack.isEmpty then { tree with active := tree.active.erase document }
  else { tree with active := tree.active.insert document stack }

/-! ## Questions -/

/-- The scope with an identifier; the global scope is not stored. -/
def get? (tree : ScopeTree) (document : String) (scopeId : Option String) : Option Scope :=
  scopeId.bind (tree.entries document).get?

/-- There is a stored scope with the identifier. -/
def has (tree : ScopeTree) (document : String) (scopeId : Option String) : Bool :=
  (tree.get? document scopeId).isSome

/-- Every scope of a document in the order of creation. -/
def list (tree : ScopeTree) (document : String) : List Scope :=
  (tree.entries document).values

/-- The kind of a scope; what is not stored counts as global. -/
def kindOf (tree : ScopeTree) (document : String) (scopeId : Option String) : ScopeKind :=
  ((tree.get? document scopeId).map Scope.kind).getD .global

/-- Follows the chain of parents from the scope at its end.  `chain` holds the parents found so
far, and no step may come back to one of them or to the start. -/
def followParents (scopes : ScopeEntries) (start : String) :
    Nat → List String → String → Except String (List String)
  | 0, chain, _ => .ok chain
  | fuel + 1, chain, last =>
    match (scopes.get? last).bind Scope.parentId with
    | none => .ok chain
    | some parent =>
      if chain.contains parent || parent == start then .error parent
      else followParents scopes start fuel (chain ++ [parent]) parent

/-- The chain of parents of a scope, innermost first, without the scope itself. -/
def ancestors (tree : ScopeTree) (document scopeId : String) : Except TreeFault (List String) :=
  let scopes := tree.entries document
  match followParents scopes scopeId (scopes.size + 1) [] scopeId with
  | .ok chain => .ok chain
  | .error repeated => .error (.cycle document repeated)

/-- Visits the scopes of a queue, adding the children of each that were not found before. -/
def visitChildren (scopes : ScopeEntries) : Nat → List String → List String → List String
  | 0, _, found => found
  | _, [], found => found
  | fuel + 1, next :: queue, found =>
    match scopes.get? next with
    | none => visitChildren scopes fuel queue found
    | some scope =>
      let fresh := scope.childIds.toList.filter fun child => !found.contains child
      visitChildren scopes fuel (queue ++ fresh) (found ++ fresh)

/-- The number of child links in a document. -/
def linkCount (scopes : ScopeEntries) : Nat :=
  scopes.values.foldl (fun total scope => total + scope.childIds.toList.length) 0

/-- Every scope below a scope, breadth first. -/
def descendants (tree : ScopeTree) (document scopeId : String) : List String :=
  let scopes := tree.entries document
  visitChildren scopes (linkCount scopes + 1) [scopeId] []

/-- The scope that was entered last and is still active. -/
def current? (tree : ScopeTree) (document : String) : Option String :=
  (tree.stack document).getLast?

/-- The documents that have scopes. -/
def documentIds (tree : ScopeTree) : List String := tree.scopes.keys

/-! ## Changes -/

/-- Adds an identifier to the children of a scope. -/
def addChild (scopes : ScopeEntries) (parentId : Option String) (childId : String) : ScopeEntries :=
  match parentId with
  | none => scopes
  | some parent =>
    scopes.modify parent fun scope => { scope with childIds := scope.childIds.insert childId }

/-- Removes an identifier from the children of a scope. -/
def dropChild (scopes : ScopeEntries) (parentId : Option String) (childId : String) :
    ScopeEntries :=
  match parentId with
  | none => scopes
  | some parent =>
    scopes.modify parent fun scope => { scope with childIds := scope.childIds.erase childId }

/-- A stored scope with the parent, kind and owner of a request, and with its members added. -/
def adopt (stored requested : Scope) : Scope :=
  { stored with
    parentId := requested.parentId
    kind := requested.kind
    ownerNodeId := requested.ownerNodeId
    memberNames := stored.memberNames.union requested.memberNames }

/-- Moves a stored scope to where a request wants it. -/
def move (tree : ScopeTree) (document : String) (stored requested : Scope) : ScopeTree :=
  let left := dropChild (tree.entries document) stored.parentId stored.id
  let placed := left.modify stored.id fun scope => adopt scope requested
  tree.setEntries document (addChild placed requested.parentId stored.id)

/-- Stores a new scope, which has no children yet. -/
def plant (tree : ScopeTree) (document : String) (requested : Scope) : ScopeTree :=
  let planted := (tree.entries document).insert requested.id { requested with childIds := ∅ }
  tree.setEntries document (addChild planted requested.parentId requested.id)

/-- Why a parent is refused, if it is. -/
def refusal? (tree : ScopeTree) (document : String) (requested : Scope) :
    Except TreeFault (Option Refusal) :=
  match requested.parentId with
  | none => .ok none
  | some parent =>
    if !tree.has document (some parent) then .ok (some (.parentMissing parent))
    else if !tree.has document (some requested.id) then .ok none
    else if parent == requested.id then .ok (some (.cycle parent))
    else
      match tree.ancestors document parent with
      | .error fault => .error fault
      | .ok chain => .ok (if chain.contains requested.id then some (.cycle parent) else none)

/-- Creates a scope, or moves the stored scope with its identifier. -/
def create (tree : ScopeTree) (document : String) (requested : Scope) :
    Except TreeFault Creation :=
  if requested.kind = .global then .error .globalScope
  else
    match tree.refusal? document requested with
    | .error fault => .error fault
    | .ok (some reason) => .ok (.refused reason)
    | .ok none =>
      match tree.get? document (some requested.id) with
      | some stored =>
        let after := tree.move document stored requested
        .ok (.moved ((after.get? document (some requested.id)).getD requested) after)
      | none =>
        let after := tree.plant document requested
        .ok (.created ((after.get? document (some requested.id)).getD requested) after)

/-- Takes a scope off the stack. -/
def leave (tree : ScopeTree) (document scopeId : String) : ScopeTree :=
  tree.setStack document ((tree.stack document).filter (· ≠ scopeId))

/-- Removes a scope with everything below it; the removed identifiers come innermost first. -/
def destroy (tree : ScopeTree) (document scopeId : String) : List String × ScopeTree :=
  match tree.get? document (some scopeId) with
  | none => ([], tree)
  | some scope =>
    let removed := (tree.descendants document scopeId).reverse ++ [scopeId]
    let kept := removed.foldl OrderedMap.erase
      (dropChild (tree.entries document) scope.parentId scopeId)
    (removed, removed.foldl (fun rest id => rest.leave document id) (tree.setEntries document kept))

/-- Replaces the names declared in a scope. -/
def setMembers (tree : ScopeTree) (document : String) (scopeId : Option String) (names : NameSet) :
    ScopeTree :=
  match tree.get? document scopeId with
  | none => tree
  | some scope =>
    tree.setEntries document
      ((tree.entries document).modify scope.id fun stored => { stored with memberNames := names })

/-- Assigns a parent without regard to the rest of the tree. -/
def setParent (tree : ScopeTree) (document scopeId : String) (parentId : Option String) :
    ScopeTree :=
  tree.setEntries document
    ((tree.entries document).modify scopeId fun stored => { stored with parentId := parentId })

/-- Enters a stored scope; one that is active already moves to the top. -/
def enter (tree : ScopeTree) (document scopeId : String) : ScopeTree :=
  tree.setStack document ((tree.stack document).filter (· ≠ scopeId) ++ [scopeId])

/-- The scope is on the stack. -/
def isActive (tree : ScopeTree) (document scopeId : String) : Bool :=
  (tree.stack document).contains scopeId

/-- Drops the scopes and the stack of a document. -/
def clear (tree : ScopeTree) (document : String) : ScopeTree :=
  (tree.setEntries document ∅).setStack document []

end ScopeTree

end LuauNodes
