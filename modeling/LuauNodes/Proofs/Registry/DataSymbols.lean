import LuauNodes.Proofs.Registry.Tidiness
import LuauNodes.Socket.Context

/-!
# Symbols of data

A symbol is about data if nothing in it has the type of execution order: neither
itself, nor what it takes and returns.  Where all symbols of a document are about
data, they stay so as long as none is declared that is not, and all that is
visible from any scope is about data.
-/

namespace LuauNodes

/-- Nothing that is taken or returned has the type of execution order. -/
structure Signature.IsData (signature : Signature) : Prop where
  parameters : ∀ parameter ∈ signature.parameters, parameter.type ≠ .flow
  returnType : signature.returnType ≠ .flow

/-- Nothing in a symbol has the type of execution order. -/
structure Symbol.IsData (symbol : Symbol) : Prop where
  type : symbol.type ≠ .flow
  signature : ∀ signature, symbol.signature = some signature → signature.IsData

instance (signature : Signature) : Decidable signature.IsData :=
  decidable_of_iff
    ((∀ parameter ∈ signature.parameters, parameter.type ≠ .flow) ∧ signature.returnType ≠ .flow)
    ⟨fun both => ⟨both.1, both.2⟩, fun data => ⟨data.parameters, data.returnType⟩⟩

instance (symbol : Symbol) : Decidable symbol.IsData :=
  decidable_of_iff
    (symbol.type ≠ .flow ∧ ∀ signature ∈ symbol.signature, signature.IsData)
    ⟨fun both => ⟨both.1, both.2⟩, fun data => ⟨data.type, data.signature⟩⟩

namespace Symbol

@[simp]
theorem isData_ofVariable_iff {name : String} {type : LuauType} :
    (ofVariable name type).IsData ↔ type ≠ .flow :=
  ⟨IsData.type, fun data => ⟨data, fun _ none => by cases none⟩⟩

@[simp]
theorem isData_ofFunction_iff {name : String} {signature : Signature} :
    (ofFunction name signature).IsData ↔ signature.IsData := by
  refine ⟨fun data => data.signature signature rfl, fun data => ⟨nofun, ?_⟩⟩
  rintro _ ⟨rfl⟩
  exact data

/-- Where a symbol is kept does not matter. -/
theorem IsData.moved
    {symbol : Symbol}
    (data : symbol.IsData)
    (scopeId : Option String)
    (kind : ScopeKind) :
    { symbol with scopeId := scopeId, scopeKind := kind }.IsData :=
  ⟨data.type, data.signature⟩

end Symbol

namespace Registry

open OrderedMap

variable {registry after : Registry} {document : String}

/-- Every symbol of a document is about data. -/
def HoldsData (registry : Registry) (document : String) : Prop :=
  ∀ space, ∀ symbol ∈ (registry.table space).list document, symbol.IsData

theorem Bare.holdsData (bare : registry.Bare document) : registry.HoldsData document := by
  intro space symbol member
  rw [bare.symbols] at member
  cases member

namespace HoldsData

theorem of_table
    (holds : registry.HoldsData document)
    (same : ∀ space, after.table space = registry.table space) :
    after.HoldsData document :=
  fun space => by
    rw [same]
    exact holds space

/-- Symbols of data are written to a document. -/
theorem setEntries
    (holds : registry.HoldsData document)
    (space : Namespace)
    (written : String)
    {symbols : SymbolEntries}
    (data : written = document → ∀ symbol ∈ symbols.values, symbol.IsData) :
    (registry.setTable space ((registry.table space).setEntries written symbols)).HoldsData
      document := by
  intro other symbol member
  rw [table_setTable] at member
  split at member
  · rw [SymbolTable.list, SymbolTable.entries_setEntries] at member
    split at member
    · rename_i here
      exact data here symbol member
    · exact holds space symbol member
  · exact holds other symbol member

theorem declare
    (holds : registry.HoldsData document)
    (space : Namespace)
    (written : String)
    {symbol : Symbol}
    (data : symbol.IsData) :
    (registry.declare space written symbol).registry.HoldsData document := by
  unfold Registry.declare
  split
  · exact holds
  · split
    · exact holds
    · refine of_table (holds.setEntries space written ?_) fun _ => table_syncMembers _ _ _ _
      rintro rfl other member
      rcases mem_values_insert member with rfl | before
      · exact data.moved _ _
      · exact holds space other before

theorem mem_values_of_foldl_erase
    {symbols : SymbolEntries}
    {keys : List SymbolKey}
    {symbol : Symbol}
    (member : symbol ∈ (keys.foldl erase symbols).values) :
    symbol ∈ symbols.values := by
  rw [values, entries_foldl_erase] at member
  obtain ⟨entry, kept, rfl⟩ := List.mem_map.mp member
  exact List.mem_map_of_mem (List.mem_of_mem_filter kept)

theorem remove
    (holds : registry.HoldsData document)
    (space : Namespace)
    (written name : String)
    (scopeId : Option String) :
    (registry.remove space written name scopeId).registry.HoldsData document := by
  unfold Registry.remove
  dsimp only
  split
  · exact holds
  · refine of_table (holds.setEntries space written ?_) fun _ => table_syncMembers _ _ _ _
    rintro rfl symbol member
    have erased : symbol ∈ ([⟨scopeId, name⟩].foldl erase
        ((registry.table space).entries written)).values := member
    exact holds space symbol (mem_values_of_foldl_erase erased)

theorem createScope
    (holds : registry.HoldsData document)
    {written : String}
    {scope : Scope}
    {change : Change (Option Scope)}
    (created : registry.createScope written scope = .ok change) :
    change.registry.HoldsData document := by
  rcases exists_setEntries_of_createScope created with same | ⟨scopes, -, same⟩
  · exact same ▸ holds
  · rw [same]
    refine holds.of_table fun space => ?_
    rw [table_syncMembers]
    cases space <;> rfl

theorem dropMembers
    (holds : registry.HoldsData document)
    (space : Namespace)
    (written scopeId : String) :
    (Registry.dropMembers space written scopeId registry).registry.HoldsData document := by
  intro other symbol member
  rw [show (Registry.dropMembers space written scopeId registry).registry =
    registry.setTable space ((registry.table space).removeEach written
      ((registry.table space).memberKeys written (some scopeId))).2 from rfl,
    table_setTable] at member
  split at member
  · rw [SymbolTable.list, SymbolTable.entries_removeEach] at member
    split at member
    · rename_i here
      exact holds space symbol (here ▸ mem_values_of_foldl_erase member)
    · exact holds space symbol member
  · exact holds other symbol member

theorem destroyScope
    (holds : registry.HoldsData document)
    (written id : String) :
    (registry.destroyScope written id).registry.HoldsData document := by
  -- The induction is on the scopes whose symbols are still to be dropped.
  have drops : ∀ (removed : List String) (change : Change (List String)),
      change.registry.HoldsData document →
        (removed.foldl (dropOwned written) change).registry.HoldsData document := by
    intro removed
    induction removed with
    | nil => exact fun _ holds => holds
    | cons scopeId rest ih =>
        exact fun change holds => ih _
          ((holds.dropMembers .vars written scopeId).dropMembers .functions written scopeId)
  cases found : registry.scopes.get? written (some id) with
  | none =>
      rw [destroyScope_of_missing found]
      exact holds
  | some scope =>
      rw [destroyScope_eq found]
      exact drops _ _ (holds.of_table (table_felling registry written id))

theorem exitScope
    (holds : registry.HoldsData document)
    (written id : String) :
    (registry.exitScope written id).registry.HoldsData document := by
  unfold Registry.exitScope
  split
  · exact holds.of_table fun space => by cases space <;> rfl
  · exact holds

end HoldsData

/-! ## What is visible -/

theorem mem_of_mem_firstByName
    {symbols : List Symbol}
    {symbol : Symbol}
    (member : symbol ∈ firstByName symbols) :
    symbol ∈ symbols := by
  induction symbols with
  | nil => exact member
  | cons first rest ih =>
      rw [firstByName] at member
      rcases List.mem_cons.mp member with rfl | later
      · exact List.mem_cons_self
      · exact List.mem_cons_of_mem first (ih (List.mem_of_mem_filter later))

theorem mem_of_mem_alongChain
    {symbols : List Symbol}
    {chain : List String}
    {symbol : Symbol}
    (member : symbol ∈ alongChain symbols chain) :
    symbol ∈ symbols := by
  rcases List.mem_append.mp member with owned | outside
  · obtain ⟨_, -, own⟩ := List.mem_flatMap.mp owned
    exact List.mem_of_mem_filter own
  · exact List.mem_of_mem_filter outside

/-- Only symbols of the document are visible. -/
theorem mem_list_of_mem_visible
    {space : Namespace}
    {scopeId : Option String}
    {symbols : List Symbol}
    {symbol : Symbol}
    (shown : registry.visible space document scopeId = .ok symbols)
    (member : symbol ∈ symbols) :
    symbol ∈ (registry.table space).list document := by
  unfold visible visibleSymbols at shown
  dsimp only at shown
  split at shown
  · cases shown
    exact mem_of_mem_alongChain (mem_of_mem_firstByName member)
  · split_ifs at shown
    · cases shown
      exact member
    · split at shown
      · cases shown
      · cases shown
        exact mem_of_mem_alongChain (mem_of_mem_firstByName member)

end Registry

/-- Every symbol that is visible is about data. -/
structure SocketContext.ShowsData (context : SocketContext) : Prop where
  functions : ∀ symbol ∈ context.functions, symbol.IsData
  vars : ∀ symbol ∈ context.vars, symbol.IsData

theorem SocketContext.showsData_empty : empty.ShowsData :=
  ⟨fun _ member => (List.not_mem_nil member).elim, fun _ member => (List.not_mem_nil member).elim⟩

theorem Registry.HoldsData.showsData
    {registry : Registry}
    {document : String}
    (holds : registry.HoldsData document)
    {scopeId : Option String}
    {feeds : Feeds}
    {context : SocketContext}
    (found : SocketContext.ofRegistry registry document scopeId feeds = .ok context) :
    context.ShowsData := by
  unfold SocketContext.ofRegistry at found
  split at found
  · rename_i vars functions varsShown functionsShown
    cases found
    exact ⟨fun symbol member => holds .functions symbol
        (mem_list_of_mem_visible functionsShown member),
      fun symbol member => holds .vars symbol (mem_list_of_mem_visible varsShown member)⟩
  · cases found
  · cases found

end LuauNodes
