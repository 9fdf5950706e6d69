import LuauNodes.Proofs.Registry.GlobalSymbols
import LuauNodes.Socket.Context

/-!
# What names mean

A name that is looked up from a scope means the nearest symbol of that name, so
its meaning is a matter of the nesting of the scopes and of the symbols of the
one name.  Declaring a symbol changes the meaning of its own name only, and in
its own namespace.
-/

namespace LuauNodes.Registry

open OrderedMap
open ScopeTree (Forest ParentChain parentOf?_eq_some_iff)

variable {left right registry : Registry} {space other : Namespace} {document name : String}

/-! ## Agreement on a name -/

/-- The scopes of a document nest alike in two registries, and have the same symbols of a name. -/
structure AgreesOnName
    (space : Namespace)
    (document name : String)
    (left right : Registry) :
    Prop where
  layout : left.scopes.layout document = right.scopes.layout document
  symbols : ∀ scopeId, (left.table space).lookup? document ⟨scopeId, name⟩ =
    (right.table space).lookup? document ⟨scopeId, name⟩

theorem AgreesOnName.refl (space : Namespace) (document name : String) (registry : Registry) :
    AgreesOnName space document name registry registry :=
  ⟨rfl, fun _ => rfl⟩

theorem AgreesOnName.symm
    (agree : AgreesOnName space document name left right) :
    AgreesOnName space document name right left :=
  ⟨agree.layout.symm, fun scopeId => (agree.symbols scopeId).symm⟩

theorem AgreesOnName.trans
    {middle : Registry}
    (first : AgreesOnName space document name left middle)
    (second : AgreesOnName space document name middle right) :
    AgreesOnName space document name left right :=
  ⟨first.layout.trans second.layout, fun scopeId =>
    (first.symbols scopeId).trans (second.symbols scopeId)⟩

/-- A scope that is stored in one registry is stored in the other one, under the same parent. -/
theorem AgreesOnName.exists_stored
    (agree : AgreesOnName space document name left right)
    (leftConsistent : left.ConsistentAt document [])
    (rightConsistent : right.ConsistentAt document [])
    {id : String}
    {scope : Scope}
    (stored : left.scopes.get? document (some id) = some scope) :
    ∃ twin, right.scopes.get? document (some id) = some twin ∧ twin.parentId = scope.parentId := by
  have laidOut : right.LaidOut document (left.scopes.layout document) :=
    ⟨rightConsistent.forest, agree.layout.symm⟩
  have member : (id, scope) ∈ (left.scopes.entries document).entries :=
    (leftConsistent.forest.distinct.get?_eq_some_iff id scope).mp stored
  have planned : (id, scope.kind, scope.ownerNodeId, scope.parentId) ∈
      left.scopes.layout document :=
    List.mem_map.mpr ⟨(id, scope), member, rfl⟩
  obtain ⟨twin, twinStored, -, -, -, parent⟩ := laidOut.exists_stored planned
  exact ⟨twin, twinStored, parent⟩

/-- A name on which two registries agree means the same in both, from any scope that is stored and
from outside all scopes. -/
theorem AgreesOnName.resolve
    (agree : AgreesOnName space document name left right)
    (leftConsistent : left.ConsistentAt document [])
    (rightConsistent : right.ConsistentAt document [])
    {scopeId : Option String}
    (stored : ∀ id, scopeId = some id → left.scopes.has document (some id) = true) :
    left.resolve space document name scopeId = right.resolve space document name scopeId := by
  have outside : left.resolve space document name none =
      right.resolve space document name none := by
    rw [leftConsistent.resolve_none, rightConsistent.resolve_none, agree.symbols]
  cases scopeId with
  | none => exact outside
  | some id =>
      obtain ⟨scope, found⟩ := (ScopeTree.has_some_eq_true_iff _ _ _).mp (stored id rfl)
      obtain ⟨outer, chain⟩ := leftConsistent.forest.grounded id scope found
      -- The induction goes from a scope to the scopes around it.
      have along : ∀ {id outer}, ParentChain (left.scopes.entries document) id outer →
          left.resolve space document name (some id) =
            right.resolve space document name (some id) := by
        intro id outer chain
        induction chain with
        | @top id outermost =>
            obtain ⟨scope, found, parent⟩ := (parentOf?_eq_some_iff _ _ _).mp outermost
            obtain ⟨twin, twinFound, twinParent⟩ :=
              agree.exists_stored leftConsistent rightConsistent found
            rw [leftConsistent.resolve_some space found,
              rightConsistent.resolve_some space twinFound, agree.symbols, twinParent, parent,
              outside]
        | @under id inner outer inside _ ih =>
            obtain ⟨scope, found, parent⟩ := (parentOf?_eq_some_iff _ _ _).mp inside
            obtain ⟨twin, twinFound, twinParent⟩ :=
              agree.exists_stored leftConsistent rightConsistent found
            rw [leftConsistent.resolve_some space found,
              rightConsistent.resolve_some space twinFound, agree.symbols, twinParent, parent, ih]
      exact along chain

/-! ## Declaring -/

theorem layout_declare
    (consistent : registry.ConsistentAt document [])
    (space : Namespace)
    (symbol : Symbol) :
    (registry.declare space document symbol).registry.scopes.layout document =
      registry.scopes.layout document :=
  (LaidOut.declare ⟨consistent.forest, rfl⟩ space document symbol).layout

/-- Declaring changes no other symbol. -/
theorem lookup?_declare_of_ne
    {symbol : Symbol}
    {key : SymbolKey}
    (apart : space = other → symbol.key ≠ key) :
    (((registry.declare space document symbol).registry.table other).lookup? document key) =
      (registry.table other).lookup? document key := by
  unfold Registry.declare
  split
  · rfl
  · split
    · rfl
    · dsimp only
      rw [table_syncMembers, table_setTable]
      split
      · rename_i same
        subst same
        rw [SymbolTable.lookup?, SymbolTable.declare, SymbolTable.entries_setEntries, if_pos rfl,
          get?_insert, if_neg]
        · rfl
        · exact apart rfl
      · rfl

/-- A symbol with a name is found where it was declared, if the scope is stored. -/
theorem lookup?_declare_self
    {symbol : Symbol}
    (named : Text.isBlankText symbol.name = false)
    (stored : ∀ id, symbol.scopeId = some id → registry.scopes.has document (some id) = true) :
    ((registry.declare space document symbol).registry.table space).lookup? document symbol.key =
      some { symbol with scopeKind := registry.scopes.kindOf document symbol.scopeId } := by
  unfold Registry.declare
  rw [if_neg (by simp [named])]
  split
  · rename_i id inside absent
    rw [inside, stored id inside] at absent
    cases absent
  · dsimp only
    rw [table_syncMembers, table_setTable, if_pos rfl, SymbolTable.lookup?, SymbolTable.declare,
      SymbolTable.entries_setEntries, if_pos rfl, get?_insert, if_pos]
    rfl

/-- Declaring a symbol changes the meaning of no other name. -/
theorem agreesOnName_declare
    (consistent : registry.ConsistentAt document [])
    {symbol : Symbol}
    (apart : space = other → symbol.name ≠ name) :
    AgreesOnName other document name (registry.declare space document symbol).registry
      registry where
  layout := layout_declare consistent space symbol
  symbols := by
    intro scopeId
    refine lookup?_declare_of_ne fun same keyed => ?_
    exact apart same (congrArg SymbolKey.name keyed)

/-! ## Declaring one after the other -/

/-- A registry in which some symbols have been declared one after the other. -/
def declareEach
    (space : Namespace)
    (document : String)
    (symbols : List Symbol)
    (registry : Registry) :
    Registry :=
  symbols.foldl (fun rest symbol => (rest.declare space document symbol).registry) registry

variable {symbols : List Symbol}

theorem declareEach_append (first second : List Symbol) (registry : Registry) :
    registry.declareEach space document (first ++ second) =
      (registry.declareEach space document first).declareEach space document second :=
  List.foldl_append

theorem Reachable.declareEach
    (reachable : registry.Reachable)
    (space : Namespace)
    (document : String)
    (symbols : List Symbol) :
    (registry.declareEach space document symbols).Reachable := by
  induction symbols generalizing registry with
  | nil => exact reachable
  | cons symbol rest ih => exact ih (reachable.of_effect (.declare space document symbol) rfl)

theorem has_declareEach
    (space : Namespace)
    (document : String)
    (symbols : List Symbol)
    (registry : Registry)
    (other id : String) :
    (registry.declareEach space document symbols).scopes.has other (some id) =
      registry.scopes.has other (some id) := by
  induction symbols generalizing registry with
  | nil => rfl
  | cons symbol rest ih => exact (ih _).trans (has_declare registry space document symbol other id)

/-- A name that no symbol has means what it meant before. -/
theorem agreesOnName_declareEach
    (reachable : registry.Reachable)
    (apart : ∀ symbol ∈ symbols, space = other → symbol.name ≠ name) :
    AgreesOnName other document name (registry.declareEach space document symbols) registry := by
  induction symbols generalizing registry with
  | nil => exact .refl other document name registry
  | cons symbol rest ih =>
      have first : AgreesOnName other document name
          (registry.declare space document symbol).registry registry :=
        agreesOnName_declare (reachable.consistent document) (apart symbol List.mem_cons_self)
      have later := ih (reachable.of_effect (.declare space document symbol) rfl)
        fun other among => apart other (List.mem_cons_of_mem symbol among)
      exact later.trans first

theorem lookup?_declareEach_of_ne
    {key : SymbolKey}
    (apart : ∀ symbol ∈ symbols, symbol.key ≠ key) :
    ((registry.declareEach space document symbols).table space).lookup? document key =
      (registry.table space).lookup? document key := by
  induction symbols generalizing registry with
  | nil => rfl
  | cons symbol rest ih =>
      have first :
          ((registry.declare space document symbol).registry.table space).lookup? document key =
            (registry.table space).lookup? document key :=
        lookup?_declare_of_ne fun _ => apart symbol List.mem_cons_self
      exact (ih fun other among => apart other (List.mem_cons_of_mem symbol among)).trans first

/-- Of several symbols with one key the last one is found. -/
theorem lookup?_declareEach_of_last
    {symbol : Symbol}
    {first later : List Symbol}
    (named : Text.isBlankText symbol.name = false)
    (stored : ∀ id, symbol.scopeId = some id → registry.scopes.has document (some id) = true)
    (last : ∀ other ∈ later, other.key ≠ symbol.key) :
    ∃ found,
      ((registry.declareEach space document (first ++ symbol :: later)).table space).lookup?
        document symbol.key = some found ∧ found.type = symbol.type := by
  rw [declareEach_append]
  refine ⟨_, (lookup?_declareEach_of_ne last).trans
    (lookup?_declare_self named fun id inside => ?_), rfl⟩
  rw [has_declareEach]
  exact stored id inside

/-! ## Surroundings -/

/-- Names mean in some surroundings what they mean from a scope. -/
structure Surrounds
    (registry : Registry)
    (document : String)
    (scopeId : Option String)
    (context : SocketContext) :
    Prop where
  functions : ∀ name, registry.resolve .functions document name scopeId =
    .ok (context.functionNamed? name)
  vars : ∀ name, registry.resolve .vars document name scopeId = .ok (context.variableNamed? name)

theorem surrounds_of_ofRegistry
    {scopeId : Option String}
    {feeds : Feeds}
    {context : SocketContext}
    (found : SocketContext.ofRegistry registry document scopeId feeds = .ok context) :
    context.feeds = feeds ∧ registry.Surrounds document scopeId context := by
  unfold SocketContext.ofRegistry at found
  split at found
  · rename_i vars functions varsShown functionsShown
    cases found
    refine ⟨rfl, ?_, ?_⟩
    · intro name
      rw [visible] at functionsShown
      rw [Registry.resolve, resolveSymbol, functionsShown]
      rfl
    · intro name
      rw [visible] at varsShown
      rw [Registry.resolve, resolveSymbol, varsShown]
      rfl
  · cases found
  · cases found

/-- In a forest of scopes every node has its surroundings. -/
theorem exists_ofRegistry
    (forest : Forest (registry.scopes.entries document))
    (scopeId : Option String)
    (feeds : Feeds) :
    ∃ context, SocketContext.ofRegistry registry document scopeId feeds = .ok context := by
  obtain ⟨vars, varsShown⟩ := exists_visible forest .vars scopeId
  obtain ⟨functions, functionsShown⟩ := exists_visible forest .functions scopeId
  rw [SocketContext.ofRegistry, varsShown, functionsShown]
  exact ⟨_, rfl⟩

end LuauNodes.Registry
