import LuauNodes.Proofs.Registry.Ownership

/-!
# Visibility is lexical

What is visible from a scope is what the scope owns, followed by what is visible
from its parent under other names.  The whole chain is searched at once, each
name being kept where it occurs first; the recursive law follows because the
chain of a scope goes on with the chain of its parent, and because in one scope
no name occurs twice.
-/

namespace LuauNodes

/-! ## First occurrences -/

/-- The symbols of a list have different names. -/
def NamesDistinct (symbols : List Symbol) : Prop := (symbols.map Symbol.name).Nodup

/-- The symbols of a list that none of some other symbols hides. -/
def unhiddenBy (nearer symbols : List Symbol) : List Symbol :=
  symbols.filter fun symbol => !(nearer.map Symbol.name).contains symbol.name

theorem namesDistinct_firstByName (symbols : List Symbol) :
    NamesDistinct (firstByName symbols) := by
  induction symbols with
  | nil => exact List.nodup_nil
  | cons symbol rest ih =>
      rw [firstByName, NamesDistinct, List.map_cons, List.nodup_cons]
      constructor
      · intro member
        rcases List.mem_map.mp member with ⟨other, kept, same⟩
        have apart := (List.mem_filter.mp kept).2
        simp [same] at apart
      · exact List.Nodup.sublist (List.filter_sublist.map Symbol.name) ih

/-- Symbols with different names in front are kept, and hide their names behind them. -/
theorem firstByName_append
    {front : List Symbol}
    (distinct : NamesDistinct front)
    (back : List Symbol) :
    firstByName (front ++ back) = front ++ unhiddenBy front (firstByName back) := by
  induction front with
  | nil => simp [unhiddenBy]
  | cons symbol rest ih =>
      rw [NamesDistinct, List.map_cons, List.nodup_cons] at distinct
      have others : (rest.filter fun other => other.name ≠ symbol.name) = rest := by
        refine List.filter_eq_self.mpr fun other member => decide_eq_true ?_
        intro same
        exact distinct.1 (List.mem_map.mpr ⟨other, member, same⟩)
      rw [List.cons_append, firstByName, ih distinct.2, List.filter_append, others]
      congr 2
      rw [unhiddenBy, unhiddenBy, List.filter_filter]
      refine List.filter_congr fun other _ => ?_
      simp

theorem firstByName_eq_self
    {symbols : List Symbol}
    (distinct : NamesDistinct symbols) :
    firstByName symbols = symbols := by
  have kept := firstByName_append distinct []
  rwa [List.append_nil, firstByName, unhiddenBy, List.filter_nil, List.append_nil] at kept

/-- A name that some symbols hide is found among them, any other one is found behind them. -/
theorem find?_append_unhiddenBy
    (front back : List Symbol)
    (name : String) :
    ((front ++ unhiddenBy front back).find? fun symbol => symbol.name == name) =
      match front.find? fun symbol => symbol.name == name with
      | some symbol => some symbol
      | none => back.find? fun symbol => symbol.name == name := by
  rw [List.find?_append]
  cases found : front.find? fun symbol => symbol.name == name with
  | some symbol => rfl
  | none =>
      rw [Option.none_or, unhiddenBy, List.find?_filter]
      congr 1
      funext symbol
      by_cases named : symbol.name = name
      · have absent : name ∉ front.map Symbol.name := by
          intro member
          rcases List.mem_map.mp member with ⟨hidden, inFront, same⟩
          have other := List.find?_eq_none.mp found hidden inFront
          simp [same] at other
        simp [named, absent]
      · simp [named]

/-! ## Symbols of a scope -/

namespace Registry

variable {registry : Registry} {document : String} {scopes : ScopeEntries} {table : SymbolTable}

/-- In one scope no name occurs twice. -/
theorem Owned.namesDistinct_listIn
    (owned : Owned scopes (table.entries document))
    (scopeId : Option String) :
    NamesDistinct (table.listIn document scopeId) := by
  have keys : (table.list document).map Symbol.key = (table.entries document).keys := by
    rw [SymbolTable.list, OrderedMap.values, OrderedMap.keys, List.map_map]
    refine List.map_congr_left fun entry member => ?_
    have found := (owned.distinct.get?_eq_some_iff entry.1 entry.2).mpr member
    exact (owned.placed entry.1 entry.2 found).keyed
  have distinctKeys : ((table.listIn document scopeId).map Symbol.key).Nodup := by
    have all : ((table.list document).map Symbol.key).Nodup := keys ▸ owned.distinct
    exact List.Nodup.sublist (List.filter_sublist.map Symbol.key) all
  have sameScope : (table.listIn document scopeId).map Symbol.key =
      ((table.listIn document scopeId).map Symbol.name).map (SymbolKey.mk scopeId) := by
    rw [List.map_map]
    refine List.map_congr_left fun symbol member => ?_
    have owner := ((owned.mem_listIn_iff scopeId symbol).mp member).2
    rw [Symbol.key, owner]
    rfl
  rw [sameScope] at distinctKeys
  exact List.Pairwise.of_map _ (fun _ _ apart same => apart (congrArg _ same)) distinctKeys

/-- Searching a scope for a name finds what is kept at the key of both. -/
theorem Owned.find?_listIn
    (owned : Owned scopes (table.entries document))
    (scopeId : Option String)
    (name : String) :
    ((table.listIn document scopeId).find? fun symbol => symbol.name == name) =
      table.lookup? document ⟨scopeId, name⟩ := by
  cases found : (table.listIn document scopeId).find? fun symbol => symbol.name == name with
  | some symbol =>
      have named : symbol.name = name := by simpa using List.find?_some found
      have listed := List.mem_of_find?_eq_some found
      rcases (owned.mem_listIn_iff scopeId symbol).mp listed with ⟨kept, owner⟩
      rw [SymbolTable.lookup?, ← kept, Symbol.key, named, owner]
  | none =>
      symm
      rw [SymbolTable.lookup?, ← Option.not_isSome_iff_eq_none, ← owned.exists_listIn_iff]
      rintro ⟨symbol, member, named⟩
      have other := List.find?_eq_none.mp found symbol member
      simp [named] at other

/-- The symbols that count as global are those without a scope. -/
theorem Owned.filter_isGlobal
    (owned : Owned scopes (table.entries document)) :
    (table.list document).filter Symbol.isGlobal = table.listIn document none := by
  refine List.filter_congr fun symbol member => ?_
  have placed := owned.placed _ symbol ((mem_list_iff owned symbol).mp member)
  cases owner : symbol.scopeId with
  | none => simp [Symbol.isGlobal, owner]
  | some id =>
      have inner : symbol.scopeKind ≠ .global := by
        intro outside
        rw [placed.kind.mp outside] at owner
        cases owner
      simp [Symbol.isGlobal, owner, inner]

/-! ## Along a chain -/

theorem alongChain_cons (symbols : List Symbol) (id : String) (outer : List String) :
    alongChain symbols (id :: outer) =
      (symbols.filter fun symbol => symbol.scopeId == some id) ++ alongChain symbols outer := by
  rw [alongChain, alongChain, List.flatMap_cons, List.append_assoc]

theorem alongChain_nil (chain : List String) : alongChain [] chain = [] := by
  induction chain with
  | nil => rfl
  | cons id outer ih => rw [alongChain_cons, ih, List.filter_nil, List.append_nil]

/-- From a stored scope the whole chain is searched, also where there are no symbols. -/
theorem visible_of_parentChain
    {id : String}
    {outer : List String}
    (chain : ScopeTree.ParentChain (registry.scopes.entries document) id outer)
    (space : Namespace) :
    registry.visible space document (some id) =
      .ok (firstByName (alongChain ((registry.table space).list document) (id :: outer))) := by
  have present := (ScopeTree.has_some_eq_true_iff registry.scopes document id).mpr chain.stored
  rw [visible, visibleSymbols]
  cases symbols : (registry.table space).list document with
  | nil => simp [alongChain_nil, firstByName]
  | cons first rest => simp [present, ScopeTree.ancestors_eq_of_parentChain chain]

/-- In a forest what is visible is known from every scope, stored or not. -/
theorem exists_visible
    (forest : ScopeTree.Forest (registry.scopes.entries document))
    (space : Namespace)
    (scopeId : Option String) :
    ∃ symbols, registry.visible space document scopeId = .ok symbols := by
  cases scopeId with
  | none => exact ⟨_, rfl⟩
  | some id =>
      cases found : (registry.scopes.entries document).get? id with
      | none =>
          have absent := (ScopeTree.has_some_eq_false_iff registry.scopes document id).mpr found
          exact ⟨_, by simp [Registry.visible, visibleSymbols, absent]; rfl⟩
      | some scope =>
          rcases forest.grounded id scope found with ⟨outer, chain⟩
          exact ⟨_, visible_of_parentChain chain space⟩

/-- The global symbols are visible from outside every scope. -/
theorem ConsistentAt.visible_none
    {pending : List (Option String)}
    (consistent : registry.ConsistentAt document pending)
    (space : Namespace) :
    registry.visible space document none =
      .ok ((registry.table space).listIn document none) := by
  have owned := consistent.owned space
  rw [visible, visibleSymbols]
  show Except.ok (firstByName ([] ++ _)) = _
  rw [List.nil_append, owned.filter_isGlobal,
    firstByName_eq_self (owned.namesDistinct_listIn none)]

/-- What is visible from a scope is its own, and then what its parent shows under other names. -/
theorem ConsistentAt.visible_some
    {pending : List (Option String)}
    (consistent : registry.ConsistentAt document pending)
    (space : Namespace)
    {id : String}
    {scope : Scope}
    (stored : registry.scopes.get? document (some id) = some scope) :
    ∃ outer, registry.visible space document scope.parentId = .ok outer ∧
      registry.visible space document (some id) =
        .ok ((registry.table space).listIn document (some id) ++
          unhiddenBy ((registry.table space).listIn document (some id)) outer) := by
  have parentAt : ScopeTree.parentOf? (registry.scopes.entries document) id = some scope.parentId :=
    (ScopeTree.parentOf?_eq_some_iff _ id _).mpr ⟨scope, stored, rfl⟩
  rcases consistent.forest.exists_parentChain parentAt with ⟨chainOut, chain⟩
  have distinct := (consistent.owned space).namesDistinct_listIn (some id)
  -- Around the scope lies either nothing, or the parent with the rest of the chain.
  have outside : registry.visible space document scope.parentId =
      .ok (firstByName (alongChain ((registry.table space).list document) chainOut)) := by
    cases chain with
    | top outermost =>
        rw [parentAt, Option.some.injEq] at outermost
        rw [outermost]
        rfl
    | under inside rest =>
        rw [parentAt, Option.some.injEq] at inside
        rw [inside, visible_of_parentChain rest]
  refine ⟨_, outside, ?_⟩
  rw [visible_of_parentChain chain, alongChain_cons]
  exact congrArg Except.ok (firstByName_append distinct _)

/-- A name means what the scope keeps under it, and else what it means in the parent. -/
theorem ConsistentAt.resolve_some
    {pending : List (Option String)}
    (consistent : registry.ConsistentAt document pending)
    (space : Namespace)
    {id : String}
    {scope : Scope}
    (stored : registry.scopes.get? document (some id) = some scope)
    (name : String) :
    registry.resolve space document name (some id) =
      match (registry.table space).lookup? document ⟨some id, name⟩ with
      | some symbol => .ok (some symbol)
      | none => registry.resolve space document name scope.parentId := by
  rcases consistent.visible_some space stored with ⟨outer, outside, inside⟩
  rw [visible] at outside inside
  rw [resolve, resolve, resolveSymbol, resolveSymbol, outside, inside]
  dsimp only
  rw [find?_append_unhiddenBy, (consistent.owned space).find?_listIn]
  cases (registry.table space).lookup? document ⟨some id, name⟩ <;> rfl

/-- Outside every scope a name means the global symbol that is kept under it. -/
theorem ConsistentAt.resolve_none
    {pending : List (Option String)}
    (consistent : registry.ConsistentAt document pending)
    (space : Namespace)
    (name : String) :
    registry.resolve space document name none =
      .ok ((registry.table space).lookup? document ⟨none, name⟩) := by
  have outside := consistent.visible_none space
  rw [visible] at outside
  rw [resolve, resolveSymbol, outside]
  exact congrArg Except.ok ((consistent.owned space).find?_listIn none name)

end Registry

/-- What is visible in a document follows the nesting of its scopes. -/
structure Registry.Lexical (registry : Registry) (space : Namespace) (document : String) :
    Prop where
  /-- From outside every scope the symbols without a scope are visible, in the order of the
  table. -/
  outermost : registry.visible space document none =
    .ok ((registry.table space).listIn document none)
  /-- From a scope its own symbols are visible, in the order of the table, and then those that
  its parent shows under names that are not declared in the scope. -/
  inner : ∀ id scope, registry.scopes.get? document (some id) = some scope →
    ∃ outer, registry.visible space document scope.parentId = .ok outer ∧
      registry.visible space document (some id) =
        .ok ((registry.table space).listIn document (some id) ++
          outer.filter fun symbol =>
            !(((registry.table space).listIn document (some id)).map Symbol.name).contains
              symbol.name)
  /-- No name is visible twice. -/
  distinct : ∀ id scope symbols, registry.scopes.get? document (some id) = some scope →
    registry.visible space document (some id) = .ok symbols → (symbols.map Symbol.name).Nodup
  /-- Outside every scope a name means the global symbol of that name. -/
  resolvedOutermost : ∀ name, registry.resolve space document name none =
    .ok ((registry.table space).lookup? document ⟨none, name⟩)
  /-- In a scope a name means the scope's own symbol, and else what it means in the parent. -/
  resolved : ∀ id scope name, registry.scopes.get? document (some id) = some scope →
    registry.resolve space document name (some id) =
      match (registry.table space).lookup? document ⟨some id, name⟩ with
      | some symbol => .ok (some symbol)
      | none => registry.resolve space document name scope.parentId

/-- In every registry that some run comes to, visibility is lexical in both namespaces of every
document. -/
theorem Registry.Reachable.lexical_visibility
    {registry : Registry}
    (reachable : registry.Reachable)
    (space : Namespace)
    (document : String) :
    registry.Lexical space document where
  outermost := (reachable.consistent document).visible_none space
  inner := fun _ _ stored => (reachable.consistent document).visible_some space stored
  distinct := by
    intro id scope symbols stored shown
    have parentAt :=
      (ScopeTree.parentOf?_eq_some_iff _ id scope.parentId).mpr ⟨scope, stored, rfl⟩
    obtain ⟨outer, chain⟩ :=
      (reachable.consistent document).forest.exists_parentChain parentAt
    rw [visible_of_parentChain chain, Except.ok.injEq] at shown
    exact shown ▸ namesDistinct_firstByName _
  resolvedOutermost := (reachable.consistent document).resolve_none space
  resolved := fun _ _ name stored =>
    (reachable.consistent document).resolve_some space stored name

/-- The loop of a function body hides the global variable of the same name. -/
theorem Registry.lexical_visibility_while_shadowing :
    (Dispatch.asking Operation.shadowing).registry.Reachable ∧
      (Dispatch.asking Operation.shadowing).registry.scopes.has "main" (some "loop") = true ∧
      (Dispatch.asking Operation.shadowing).registry.Lexical .vars "main" :=
  ⟨(Dispatch.reachable_asking Operation.shadowing).registry,
    by decide,
    Registry.Reachable.lexical_visibility
      (Dispatch.reachable_asking Operation.shadowing).registry .vars "main"⟩

end LuauNodes
