import LuauNodes.Proofs.Registry.Destruction
import LuauNodes.Proofs.Registry.Runs
import LuauNodes.Session.Question

/-!
# Separation of documents

What an operation does to a document depends on nothing but what the registry
holds of that document.  Two registries that agree on a document answer a
request to it alike, tell the same events and agree on it afterwards.
-/

namespace LuauNodes

open OrderedMap

/-- Two computations end alike: with the same error, or with values that are alike. -/
inductive EndsAlike {ε α β : Type} (Alike : α → β → Prop) : Except ε α → Except ε β → Prop where
  | error (fault : ε) : EndsAlike Alike (.error fault) (.error fault)
  | ok {left : α} {right : β} (alike : Alike left right) : EndsAlike Alike (.ok left) (.ok right)

/-! ## Symbol tables -/

namespace SymbolTable

/-- Two tables keep the same symbols of a document. -/
def AgreesOn (document : String) (left right : SymbolTable) : Prop :=
  left.documents.get? document = right.documents.get? document

variable {document : String} {left right : SymbolTable}

theorem get?_setEntries
    (table : SymbolTable)
    (document : String)
    (entries : SymbolEntries) :
    (table.setEntries document entries).documents.get? document =
      if entries.isEmpty then none else some entries := by
  unfold setEntries
  split <;> simp

theorem AgreesOn.entries
    (agree : AgreesOn document left right) :
    left.entries document = right.entries document :=
  congrArg (Option.getD · ∅) agree

theorem AgreesOn.lookup?
    (agree : AgreesOn document left right)
    (key : SymbolKey) :
    left.lookup? document key = right.lookup? document key :=
  congrArg (OrderedMap.get? · key) agree.entries

theorem AgreesOn.list
    (agree : AgreesOn document left right) :
    left.list document = right.list document :=
  congrArg values agree.entries

theorem AgreesOn.listIn
    (agree : AgreesOn document left right)
    (scopeId : Option String) :
    left.listIn document scopeId = right.listIn document scopeId :=
  congrArg (List.filter _) agree.list

theorem AgreesOn.find?
    (agree : AgreesOn document left right)
    (name : String) :
    left.find? document name = right.find? document name := by
  rw [SymbolTable.find?, SymbolTable.find?, agree.lookup?, agree.list]

theorem AgreesOn.memberKeys
    (agree : AgreesOn document left right)
    (scopeId : Option String) :
    left.memberKeys document scopeId = right.memberKeys document scopeId :=
  congrArg (List.map Symbol.key) (agree.listIn scopeId)

/-- Tables that are given the same symbols agree. -/
theorem agreesOn_setEntries
    (left right : SymbolTable)
    {leftEntries rightEntries : SymbolEntries}
    (same : leftEntries = rightEntries) :
    AgreesOn document (left.setEntries document leftEntries)
      (right.setEntries document rightEntries) := by
  rw [AgreesOn, get?_setEntries, get?_setEntries, same]

theorem AgreesOn.declare
    (agree : AgreesOn document left right)
    (symbol : Symbol) :
    AgreesOn document (left.declare document symbol) (right.declare document symbol) :=
  agreesOn_setEntries left right (congrArg (insert · symbol.key symbol) agree.entries)

theorem AgreesOn.remove
    (agree : AgreesOn document left right)
    (key : SymbolKey) :
    AgreesOn document (left.remove document key) (right.remove document key) :=
  agreesOn_setEntries left right (congrArg (erase · key) agree.entries)

theorem agreesOn_clear (document : String) (left right : SymbolTable) :
    AgreesOn document (left.clear document) (right.clear document) :=
  agreesOn_setEntries left right rfl

theorem AgreesOn.removeEach
    (agree : AgreesOn document left right)
    (keys : List SymbolKey) :
    (left.removeEach document keys).1 = (right.removeEach document keys).1 ∧
      AgreesOn document (left.removeEach document keys).2 (right.removeEach document keys).2 := by
  induction keys generalizing left right with
  | nil => exact ⟨rfl, agree⟩
  | cons key rest ih =>
      obtain ⟨held, remaining⟩ := ih (agree.remove key)
      refine ⟨?_, remaining⟩
      show (if _ then key :: _ else _) = (if _ then key :: _ else _)
      rw [agree.lookup?, held]

/-- The symbols of other documents are not touched. -/
theorem agreesOn_of_without
    {other : String}
    (apart : other ≠ document)
    (same : left.without other = right.without other) :
    AgreesOn document left right := by
  have erased : (left.documents.erase other).get? document =
      (right.documents.erase other).get? document :=
    congrArg (fun table => table.documents.get? document) same
  rwa [get?_erase, get?_erase, if_neg apart, if_neg apart] at erased

end SymbolTable

/-! ## Scope trees -/

/-- The tree that a creation leaves, if the scope is not refused. -/
def Creation.tree? : Creation → Option ScopeTree
  | .refused _ => none
  | .created _ tree | .moved _ tree => some tree

namespace ScopeTree

/-- Two trees keep the same scopes of a document, and have entered the same ones. -/
structure AgreesOn (document : String) (left right : ScopeTree) : Prop where
  scopes : left.scopes.get? document = right.scopes.get? document
  active : left.active.get? document = right.active.get? document

variable {document : String} {left right : ScopeTree}

theorem AgreesOn.entries
    (agree : AgreesOn document left right) :
    left.entries document = right.entries document :=
  congrArg (Option.getD · ∅) agree.scopes

theorem AgreesOn.stack
    (agree : AgreesOn document left right) :
    left.stack document = right.stack document :=
  congrArg (Option.getD · []) agree.active

theorem AgreesOn.get?
    (agree : AgreesOn document left right)
    (scopeId : Option String) :
    left.get? document scopeId = right.get? document scopeId :=
  congrArg (fun entries => scopeId.bind (OrderedMap.get? entries)) agree.entries

theorem AgreesOn.has
    (agree : AgreesOn document left right)
    (scopeId : Option String) :
    left.has document scopeId = right.has document scopeId :=
  congrArg Option.isSome (agree.get? scopeId)

theorem AgreesOn.kindOf
    (agree : AgreesOn document left right)
    (scopeId : Option String) :
    left.kindOf document scopeId = right.kindOf document scopeId :=
  congrArg (fun scope => (scope.map Scope.kind).getD .global) (agree.get? scopeId)

theorem AgreesOn.ancestors
    (agree : AgreesOn document left right)
    (scopeId : String) :
    left.ancestors document scopeId = right.ancestors document scopeId := by
  rw [ScopeTree.ancestors, ScopeTree.ancestors, agree.entries]

theorem AgreesOn.descendants
    (agree : AgreesOn document left right)
    (scopeId : String) :
    left.descendants document scopeId = right.descendants document scopeId := by
  rw [ScopeTree.descendants, ScopeTree.descendants, agree.entries]

theorem AgreesOn.isActive
    (agree : AgreesOn document left right)
    (scopeId : String) :
    left.isActive document scopeId = right.isActive document scopeId :=
  congrArg (List.contains · scopeId) agree.stack

theorem AgreesOn.setEntries
    (agree : AgreesOn document left right)
    {leftEntries rightEntries : ScopeEntries}
    (same : leftEntries = rightEntries) :
    AgreesOn document (left.setEntries document leftEntries)
      (right.setEntries document rightEntries) := by
  subst same
  unfold ScopeTree.setEntries
  split
  · exact ⟨by simp, agree.active⟩
  · exact ⟨by simp, agree.active⟩

theorem AgreesOn.setStack
    (agree : AgreesOn document left right)
    {leftStack rightStack : List String}
    (same : leftStack = rightStack) :
    AgreesOn document (left.setStack document leftStack) (right.setStack document rightStack) := by
  subst same
  unfold ScopeTree.setStack
  split
  · exact ⟨agree.scopes, by simp⟩
  · exact ⟨agree.scopes, by simp⟩

theorem AgreesOn.enter
    (agree : AgreesOn document left right)
    (scopeId : String) :
    AgreesOn document (left.enter document scopeId) (right.enter document scopeId) :=
  agree.setStack (by rw [agree.stack])

theorem AgreesOn.leave
    (agree : AgreesOn document left right)
    (scopeId : String) :
    AgreesOn document (left.leave document scopeId) (right.leave document scopeId) :=
  agree.setStack (by rw [agree.stack])

theorem AgreesOn.setMembers
    (agree : AgreesOn document left right)
    (scopeId : Option String)
    (names : NameSet) :
    AgreesOn document (left.setMembers document scopeId names)
      (right.setMembers document scopeId names) := by
  unfold ScopeTree.setMembers
  rw [agree.get?]
  cases right.get? document scopeId with
  | none => exact agree
  | some scope => exact agree.setEntries (by rw [agree.entries])

theorem AgreesOn.move
    (agree : AgreesOn document left right)
    (stored requested : Scope) :
    AgreesOn document (left.move document stored requested)
      (right.move document stored requested) :=
  agree.setEntries (by rw [agree.entries])

theorem AgreesOn.plant
    (agree : AgreesOn document left right)
    (requested : Scope) :
    AgreesOn document (left.plant document requested) (right.plant document requested) :=
  agree.setEntries (by rw [agree.entries])

theorem AgreesOn.refusal?
    (agree : AgreesOn document left right)
    (requested : Scope) :
    left.refusal? document requested = right.refusal? document requested := by
  unfold ScopeTree.refusal?
  simp only [agree.has, agree.ancestors]

theorem AgreesOn.foldl_leave
    (agree : AgreesOn document left right)
    (removed : List String) :
    AgreesOn document (removed.foldl (fun rest id => rest.leave document id) left)
      (removed.foldl (fun rest id => rest.leave document id) right) := by
  induction removed generalizing left right with
  | nil => exact agree
  | cons id rest ih => exact ih (agree.leave id)

theorem AgreesOn.destroy
    (agree : AgreesOn document left right)
    (scopeId : String) :
    (left.destroy document scopeId).1 = (right.destroy document scopeId).1 ∧
      AgreesOn document (left.destroy document scopeId).2 (right.destroy document scopeId).2 := by
  unfold ScopeTree.destroy
  rw [agree.get?]
  cases right.get? document (some scopeId) with
  | none => exact ⟨rfl, agree⟩
  | some scope =>
      dsimp only
      rw [agree.descendants, agree.entries]
      exact ⟨rfl, (agree.setEntries rfl).foldl_leave _⟩

theorem AgreesOn.clear
    (agree : AgreesOn document left right) :
    AgreesOn document (left.clear document) (right.clear document) :=
  (agree.setEntries rfl).setStack rfl

/-- What two trees make of a request for a scope, told apart by nothing but other documents. -/
inductive CreatesAlike (document : String) : Creation → Creation → Prop where
  | refused (reason : Refusal) :
      CreatesAlike document (.refused reason) (.refused reason)
  | created
      (scope : Scope)
      {left right : ScopeTree}
      (agree : AgreesOn document left right) :
      CreatesAlike document (.created scope left) (.created scope right)
  | moved
      (scope : Scope)
      {left right : ScopeTree}
      (agree : AgreesOn document left right) :
      CreatesAlike document (.moved scope left) (.moved scope right)

theorem AgreesOn.create
    (agree : AgreesOn document left right)
    (requested : Scope) :
    EndsAlike (CreatesAlike document) (left.create document requested)
      (right.create document requested) := by
  unfold ScopeTree.create
  rw [agree.refusal?, agree.get?]
  by_cases outside : requested.kind = .global
  · rw [if_pos outside, if_pos outside]
    exact .error _
  · rw [if_neg outside, if_neg outside]
    cases right.refusal? document requested with
    | error fault => exact .error fault
    | ok refusal =>
        cases refusal with
        | some reason => exact .ok (.refused reason)
        | none =>
            cases right.get? document (some requested.id) with
            | some stored =>
                have moved := agree.move stored requested
                dsimp only
                rw [moved.get?]
                exact .ok (.moved _ moved)
            | none =>
                have planted := agree.plant requested
                dsimp only
                rw [planted.get?]
                exact .ok (.created _ planted)

theorem without_create
    {tree after : ScopeTree}
    {requested : Scope}
    {creation : Creation}
    (made : tree.create document requested = .ok creation)
    (leaves : creation.tree? = some after) :
    after.without document = tree.without document := by
  unfold ScopeTree.create at made
  split_ifs at made
  split at made
  · cases made
  · cases made
    cases leaves
  · split at made <;> cases made <;> cases leaves
    · exact without_setEntries _ _ _
    · exact without_setEntries _ _ _

/-- The scopes of other documents are not touched. -/
theorem agreesOn_of_without
    {other : String}
    (apart : other ≠ document)
    (same : left.without other = right.without other) :
    AgreesOn document left right := by
  have scopes : (left.scopes.erase other).get? document =
      (right.scopes.erase other).get? document :=
    congrArg (fun tree => tree.scopes.get? document) same
  have active : (left.active.erase other).get? document =
      (right.active.erase other).get? document :=
    congrArg (fun tree => tree.active.get? document) same
  rw [get?_erase, get?_erase, if_neg apart, if_neg apart] at scopes active
  exact ⟨scopes, active⟩

end ScopeTree

/-! ## Registries -/

namespace Registry

/-- Two registries hold the same of a document, in the same order. -/
structure AgreesOn (document : String) (left right : Registry) : Prop where
  table : ∀ space, SymbolTable.AgreesOn document (left.table space) (right.table space)
  scopes : ScopeTree.AgreesOn document left.scopes right.scopes

theorem AgreesOn.refl (document : String) (registry : Registry) :
    AgreesOn document registry registry :=
  ⟨fun _ => rfl, rfl, rfl⟩

variable {document : String} {left middle right : Registry}

theorem AgreesOn.symm (agree : AgreesOn document left right) : AgreesOn document right left :=
  ⟨fun space => (agree.table space).symm, agree.scopes.scopes.symm, agree.scopes.active.symm⟩

theorem AgreesOn.trans
    (first : AgreesOn document left middle)
    (second : AgreesOn document middle right) :
    AgreesOn document left right :=
  ⟨fun space => (first.table space).trans (second.table space),
    first.scopes.scopes.trans second.scopes.scopes,
    first.scopes.active.trans second.scopes.active⟩

theorem AgreesOn.setTable
    (agree : AgreesOn document left right)
    (space : Namespace)
    {leftTable rightTable : SymbolTable}
    (same : SymbolTable.AgreesOn document leftTable rightTable) :
    AgreesOn document (left.setTable space leftTable) (right.setTable space rightTable) where
  table other := by
    rw [table_setTable, table_setTable]
    split
    · exact same
    · exact agree.table other
  scopes := by
    rw [scopes_setTable, scopes_setTable]
    exact agree.scopes

theorem AgreesOn.withScopes
    (agree : AgreesOn document left right)
    {leftTree rightTree : ScopeTree}
    (same : ScopeTree.AgreesOn document leftTree rightTree) :
    AgreesOn document { left with scopes := leftTree } { right with scopes := rightTree } :=
  ⟨fun space => by cases space; exacts [agree.table .vars, agree.table .functions], same⟩

theorem AgreesOn.memberNames
    (agree : AgreesOn document left right)
    (scopeId : Option String) :
    left.memberNames document scopeId = right.memberNames document scopeId := by
  have vars : left.vars.listIn document scopeId = right.vars.listIn document scopeId :=
    (agree.table .vars).listIn scopeId
  have functions : left.functions.listIn document scopeId =
      right.functions.listIn document scopeId := (agree.table .functions).listIn scopeId
  rw [Registry.memberNames, Registry.memberNames, vars, functions]

theorem AgreesOn.syncMembers
    (agree : AgreesOn document left right)
    (scopeId : Option String) :
    AgreesOn document (left.syncMembers document scopeId) (right.syncMembers document scopeId) := by
  unfold Registry.syncMembers
  rw [agree.memberNames]
  exact agree.withScopes (agree.scopes.setMembers scopeId _)

theorem AgreesOn.mem_documents (agree : AgreesOn document left right) :
    document ∈ left.documents ↔ document ∈ right.documents := by
  have table : ∀ space, document ∈ (left.table space).documents.keys ↔
      document ∈ (right.table space).documents.keys := by
    intro space
    rw [← OrderedMap.contains_iff_mem_keys, ← OrderedMap.contains_iff_mem_keys]
    exact iff_of_eq (congrArg (fun found => found.isSome = true) (agree.table space))
  have scopes : document ∈ left.scopes.scopes.keys ↔ document ∈ right.scopes.scopes.keys := by
    rw [← OrderedMap.contains_iff_mem_keys, ← OrderedMap.contains_iff_mem_keys]
    exact iff_of_eq (congrArg (fun found => found.isSome = true) agree.scopes.scopes)
  have held : ∀ registry : Registry, document ∈ registry.documents ↔
      (document ∈ (registry.table .vars).documents.keys ∨
        document ∈ (registry.table .functions).documents.keys) ∨
        document ∈ registry.scopes.scopes.keys := by
    intro registry
    refine (NameSet.mem_ofList _ _).trans ?_
    rw [List.mem_append, List.mem_append]
    rfl
  rw [held, held, table, table, scopes]

/-- Two changes answer alike, tell the same, and leave the same of a document. -/
structure ChangesAlike {α : Type} (document : String) (left right : Change α) : Prop where
  registry : AgreesOn document left.registry right.registry
  result : left.result = right.result
  events : left.events = right.events

section Operations

variable {α : Type}

theorem AgreesOn.unchanged
    (agree : AgreesOn document left right)
    (result : α)
    (leftNotices rightNotices : List Notice) :
    ChangesAlike document (left.unchanged result leftNotices)
      (right.unchanged result rightNotices) :=
  ⟨agree, rfl, rfl⟩

theorem AgreesOn.declare
    (agree : AgreesOn document left right)
    (space : Namespace)
    (symbol : Symbol) :
    ChangesAlike document (left.declare space document symbol)
      (right.declare space document symbol) := by
  unfold Registry.declare
  rw [agree.scopes.has, agree.scopes.kindOf]
  split
  · exact agree.unchanged none _ _
  · split
    · exact agree.unchanged none _ _
    · exact ⟨(agree.setTable space ((agree.table space).declare _)).syncMembers _, rfl, rfl⟩

theorem AgreesOn.revise
    (agree : AgreesOn document left right)
    (space : Namespace)
    (name : String)
    (scopeId : Option String)
    (fields : Record.Fields) :
    ChangesAlike document (left.revise space document name scopeId fields)
      (right.revise space document name scopeId fields) := by
  unfold Registry.revise SymbolTable.revise
  rw [(agree.table space).lookup?]
  cases (right.table space).lookup? document ⟨scopeId, name⟩ with
  | none => exact agree.unchanged none _ _
  | some current =>
      dsimp only
      cases current.merge (fields.filter fun field => field.1 != "scope_type") with
      | bad faults => exact agree.unchanged none _ _
      | ok symbol =>
          refine ⟨agree.setTable space (SymbolTable.agreesOn_setEntries _ _ ?_), rfl, rfl⟩
          rw [(agree.table space).entries]

theorem AgreesOn.remove
    (agree : AgreesOn document left right)
    (space : Namespace)
    (name : String)
    (scopeId : Option String) :
    ChangesAlike document (left.remove space document name scopeId)
      (right.remove space document name scopeId) := by
  unfold Registry.remove
  dsimp only
  rw [(agree.table space).lookup?]
  cases (right.table space).lookup? document ⟨scopeId, name⟩ with
  | none => exact agree.unchanged none _ _
  | some symbol =>
      exact ⟨(agree.setTable space ((agree.table space).remove _)).syncMembers scopeId, rfl, rfl⟩

theorem AgreesOn.clearSymbols
    (agree : AgreesOn document left right)
    (space : Namespace) :
    ChangesAlike document (left.clearSymbols space document)
      (right.clearSymbols space document) := by
  have synced : ∀ (touched : List (Option String)) {left right : Registry},
      AgreesOn document left right →
      AgreesOn document
        (touched.foldl (fun rest scopeId => rest.syncMembers document scopeId) left)
        (touched.foldl (fun rest scopeId => rest.syncMembers document scopeId) right) := by
    intro touched
    induction touched with
    | nil => exact fun agree => agree
    | cons scopeId rest ih => exact fun agree => ih (agree.syncMembers scopeId)
  unfold Registry.clearSymbols
  rw [(agree.table space).list]
  exact ⟨synced _ (agree.setTable space (SymbolTable.agreesOn_clear document _ _)), rfl, rfl⟩

theorem AgreesOn.createScope
    (agree : AgreesOn document left right)
    (scope : Scope) :
    EndsAlike (ChangesAlike document) (left.createScope document scope)
      (right.createScope document scope) := by
  have settled : ∀ {leftTree rightTree : ScopeTree} (leftNotice rightNotice : Notice),
      ScopeTree.AgreesOn document leftTree rightTree →
      ChangesAlike document
        ({ left with scopes := leftTree }.settleScope document scope.id leftNotice)
        ({ right with scopes := rightTree }.settleScope document scope.id rightNotice) := by
    intro leftTree rightTree leftNotice rightNotice same
    have synced := (agree.withScopes same).syncMembers (some scope.id)
    exact ⟨synced, synced.scopes.get? (some scope.id), rfl⟩
  unfold Registry.createScope
  have alike := agree.scopes.create scope
  generalize left.scopes.create document scope = leftEnd at alike ⊢
  generalize right.scopes.create document scope = rightEnd at alike ⊢
  cases alike with
  | error fault => exact .error fault
  | ok alike =>
      cases alike with
      | refused reason => exact .ok (agree.unchanged none _ _)
      | created stored same => exact .ok (settled _ _ same)
      | moved stored same => exact .ok (settled _ _ same)

theorem AgreesOn.dropMembers
    (agree : AgreesOn document left right)
    (space : Namespace)
    (scopeId : String) :
    ChangesAlike document (dropMembers space document scopeId left)
      (dropMembers space document scopeId right) := by
  have keys := (agree.table space).memberKeys (some scopeId)
  have removed := (agree.table space).removeEach
    ((right.table space).memberKeys document (some scopeId))
  unfold Registry.dropMembers
  dsimp only
  rw [keys]
  exact ⟨agree.setTable space removed.2, rfl, rfl⟩

theorem ChangesAlike.followedBy
    {first second : Change α}
    (alike : ChangesAlike document first second)
    {next : Registry → Change Unit}
    (nextAlike : ∀ {left right : Registry}, AgreesOn document left right →
      ChangesAlike document (next left) (next right)) :
    ChangesAlike document (first.followedBy next) (second.followedBy next) where
  registry := (nextAlike alike.registry).registry
  result := alike.result
  events := congrArg₂ (· ++ ·) alike.events (nextAlike alike.registry).events

theorem ChangesAlike.announcing
    {first second : Change α}
    (alike : ChangesAlike document first second)
    (event : Event) :
    ChangesAlike document (first.announcing event) (second.announcing event) where
  registry := alike.registry
  result := alike.result
  events := congrArg (· ++ [event]) alike.events

theorem ChangesAlike.dropOwned
    {first second : Change (List String)}
    (alike : ChangesAlike document first second)
    (id : String) :
    ChangesAlike document (Registry.dropOwned document first id)
      (Registry.dropOwned document second id) := by
  have vars : ChangesAlike document (first.followedBy (dropMembers .vars document id))
      (second.followedBy (dropMembers .vars document id)) :=
    alike.followedBy fun agree => agree.dropMembers .vars id
  exact vars.followedBy fun agree => agree.dropMembers .functions id

theorem ChangesAlike.foldl_dropOwned
    {first second : Change (List String)}
    (alike : ChangesAlike document first second)
    (removed : List String) :
    ChangesAlike document (removed.foldl (Registry.dropOwned document) first)
      (removed.foldl (Registry.dropOwned document) second) := by
  induction removed generalizing first second with
  | nil => exact alike
  | cons id rest ih => exact ih (alike.dropOwned id)

theorem AgreesOn.destroyScope
    (agree : AgreesOn document left right)
    (scopeId : String) :
    ChangesAlike document (left.destroyScope document scopeId)
      (right.destroyScope document scopeId) := by
  obtain ⟨removed, trees⟩ := agree.scopes.destroy scopeId
  unfold Registry.destroyScope
  rcases leftEnd : left.scopes.destroy document scopeId with ⟨gone, leftTree⟩
  rcases rightEnd : right.scopes.destroy document scopeId with ⟨_, rightTree⟩
  rw [leftEnd, rightEnd] at removed trees
  cases removed
  cases gone with
  | nil => exact agree.unchanged [] _ _
  | cons id rest =>
      have felling : ChangesAlike document
          (⟨{ left with scopes := leftTree }, id :: rest, [],
            [.scopeDestroyed document scopeId (id :: rest)]⟩ : Change (List String))
          ⟨{ right with scopes := rightTree }, id :: rest, [],
            [.scopeDestroyed document scopeId (id :: rest)]⟩ :=
        ⟨agree.withScopes trees, rfl, rfl⟩
      exact (felling.foldl_dropOwned (id :: rest)).announcing _

theorem AgreesOn.enterScope
    (agree : AgreesOn document left right)
    (scopeId : Option String) :
    ChangesAlike document (left.enterScope document scopeId)
      (right.enterScope document scopeId) := by
  unfold Registry.enterScope
  rw [agree.scopes.has]
  split
  · exact ⟨agree.withScopes (agree.scopes.enter _), rfl, rfl⟩
  · exact agree.unchanged false _ _

theorem AgreesOn.exitScope
    (agree : AgreesOn document left right)
    (scopeId : String) :
    ChangesAlike document (left.exitScope document scopeId)
      (right.exitScope document scopeId) := by
  unfold Registry.exitScope
  rw [agree.scopes.isActive]
  split
  · exact ⟨agree.withScopes (agree.scopes.leave scopeId), rfl, rfl⟩
  · exact agree.unchanged false _ _

theorem AgreesOn.clearDocument
    (agree : AgreesOn document left right) :
    ChangesAlike document (left.clearDocument document) (right.clearDocument document) where
  registry :=
    { table := fun space => by cases space <;> exact SymbolTable.agreesOn_clear document _ _
      scopes := agree.scopes.clear }
  result := rfl
  events := rfl

end Operations

/-! ## Questions -/

theorem AgreesOn.visible
    (agree : AgreesOn document left right)
    (space : Namespace)
    (scopeId : Option String) :
    left.visible space document scopeId = right.visible space document scopeId := by
  unfold Registry.visible visibleSymbols
  simp only [(agree.table space).list, agree.scopes.has, agree.scopes.ancestors]

theorem AgreesOn.resolve
    (agree : AgreesOn document left right)
    (space : Namespace)
    (name : String)
    (scopeId : Option String) :
    left.resolve space document name scopeId = right.resolve space document name scopeId := by
  have visible := agree.visible space scopeId
  unfold Registry.visible at visible
  unfold Registry.resolve resolveSymbol
  rw [visible]

theorem AgreesOn.visibleFromCurrent
    (agree : AgreesOn document left right) :
    left.visibleFromCurrent document = right.visibleFromCurrent document := by
  have vars : left.vars.list document = right.vars.list document := (agree.table .vars).list
  unfold Registry.visibleFromCurrent ScopeTree.current?
  simp only [agree.scopes.stack, vars, agree.visible]

theorem AgreesOn.suggest
    (agree : AgreesOn document left right)
    (scopeId : Option String)
    (fragment : String)
    (filter : Option Completion.TypeFilter)
    (source : Completion.Source) :
    Completion.suggest left document scopeId fragment filter source =
      Completion.suggest right document scopeId fragment filter source := by
  unfold Completion.suggest Completion.suggestBy Completion.candidates
  simp only [agree.visible]

theorem AgreesOn.reply
    (agree : AgreesOn document left right)
    (question : Question) :
    left.reply document question = right.reply document question := by
  cases question with
  | variablesIn scopeId =>
      exact congrArg (fun listed => Except.ok (Reply.symbols listed))
        ((agree.table .vars).listIn scopeId)
  | ancestors scopeId | descendants scopeId =>
      cases scopeId <;>
        simp only [Registry.reply, agree.scopes.ancestors, agree.scopes.descendants]
  | scopes => simp only [Registry.reply, ScopeTree.list, agree.scopes.entries]
  | currentScope => simp only [Registry.reply, ScopeTree.current?, agree.scopes.stack]
  | _ =>
      simp only [Registry.reply, (agree.table _).lookup?, (agree.table _).find?,
        (agree.table _).list, agree.resolve, agree.visible, agree.visibleFromCurrent,
        agree.scopes.stack, agree.scopes.get?, agree.scopes.kindOf, agree.scopes.has, agree.suggest]

end Registry

end LuauNodes
