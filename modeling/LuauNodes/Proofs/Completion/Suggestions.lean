import LuauNodes.Completion
import LuauNodes.Proofs.Registry.LexicalVisibility
import Mathlib.Data.List.Nodup

/-!
# Suggestions

What is suggested for a fragment are the symbols that names mean in the scope,
as far as they are admitted and their names contain the fragment.  Names that
begin with the fragment come first, and otherwise the order is that in which the
symbols are visible.  A declaration that another one hides is not visible, so
that it is never suggested.
-/

namespace LuauNodes.Completion

open LuauNodes.Text

variable {registry : Registry} {document : String} {scopeId : Option String}
variable {fragment : String} {admits : Symbol → Bool} {source : Source}

/-! ## Matches -/

/-- A fragment begins with an ASCII letter or an underscore. -/
def BeginsName (fragment : String) : Prop :=
  ∃ first rest, fragment.toList = first :: rest ∧ (first.isAlpha = true ∨ first = '_')

/-- The name of a symbol begins with a fragment once both are lowered. -/
def StartsWith (fragment : String) (symbol : Symbol) : Prop :=
  (lowerCase fragment).toList <+: (lowerCase symbol.name).toList

/-- The name of a symbol contains a fragment once both are lowered. -/
def Contains (fragment : String) (symbol : Symbol) : Prop :=
  (lowerCase fragment).toList <:+: (lowerCase symbol.name).toList

theorem canTrigger_iff : canTrigger fragment = true ↔ BeginsName fragment := by
  unfold canTrigger BeginsName
  cases fragment.toList with
  | nil => simp
  | cons first rest => simp [isNameStart, or_comm]

theorem occursIn_iff (part text : List Char) : occursIn part text = true ↔ part <:+: text := by
  induction text with
  | nil => simp [occursIn]
  | cons c rest ih =>
      rw [occursIn, Bool.or_eq_true, List.isPrefixOf_iff_prefix, ih, List.infix_cons_iff]

theorem beginsWith_iff (symbol : Symbol) :
    beginsWith fragment symbol = true ↔ StartsWith fragment symbol :=
  List.isPrefixOf_iff_prefix

theorem holds_iff (symbol : Symbol) : holds fragment symbol = true ↔ Contains fragment symbol :=
  occursIn_iff _ _

instance (fragment : String) (symbol : Symbol) : Decidable (StartsWith fragment symbol) :=
  decidable_of_iff _ (beginsWith_iff symbol)

theorem StartsWith.contains {symbol : Symbol} (starts : StartsWith fragment symbol) :
    Contains fragment symbol :=
  starts.isInfix

/-! ## Ranking -/

/-- The namespaces of a source, in the order in which they are searched. -/
def Source.spaces : Source → List Namespace
  | one space => [space]
  | both => [.vars, .functions]

/-- What namespaces show, each symbol with its namespace. -/
def offered (source : Source) (shown : Namespace → List Symbol) : List (Namespace × Symbol) :=
  source.spaces.flatMap fun space => (shown space).map (Prod.mk space)

/-- The suggestions are the symbols that match, best matches first.  Every symbol stands with the
namespace that it comes from. -/
structure Ranks
    (registry : Registry)
    (document : String)
    (scopeId : Option String)
    (fragment : String)
    (admits : Symbol → Bool)
    (source : Source)
    (ranked : List (Namespace × Symbol)) :
    Prop where
  once : ranked.Nodup
  exact : ∀ space symbol, (space, symbol) ∈ ranked ↔
    space ∈ source.spaces ∧
      registry.resolve space document symbol.name scopeId = .ok (some symbol) ∧
        admits symbol = true ∧ Contains fragment symbol
  bestFirst : ranked.Pairwise fun earlier later =>
    StartsWith fragment later.2 → StartsWith fragment earlier.2
  inOrder : ∃ shown : Namespace → List Symbol,
    (∀ space, registry.visible space document scopeId = .ok (shown space)) ∧
      (ranked.filter fun offer => StartsWith fragment offer.2).Sublist (offered source shown) ∧
        (ranked.filter fun offer => ¬ StartsWith fragment offer.2).Sublist (offered source shown)
  unshadowed : ∀ space symbol other, other ≠ symbol →
    registry.resolve space document symbol.name scopeId = .ok (some other) →
      (space, symbol) ∉ ranked

/-! ## What is shown -/

section Offers

variable {shown : Namespace → List Symbol} {offers : List (Namespace × Symbol)}

theorem mem_offered_iff (space : Namespace) (symbol : Symbol) :
    (space, symbol) ∈ offered source shown ↔ space ∈ source.spaces ∧ symbol ∈ shown space := by
  simp only [offered, List.mem_flatMap, List.mem_map, Prod.mk.injEq]
  constructor
  · rintro ⟨_, searched, _, member, rfl, rfl⟩
    exact ⟨searched, member⟩
  · rintro ⟨searched, member⟩
    exact ⟨space, searched, symbol, member, rfl, rfl⟩

theorem nodup_offered (distinct : ∀ space, NamesDistinct (shown space)) :
    (offered source shown).Nodup := by
  have spaces : source.spaces.Nodup := by cases source <;> simp [Source.spaces]
  refine List.nodup_flatMap.mpr ⟨fun space _ => ?_, spaces.imp fun apart => ?_⟩
  · exact (List.Nodup.of_map Symbol.name (distinct space)).map fun _ _ same =>
      congrArg Prod.snd same
  · intro offer here there
    obtain ⟨_, _, rfl⟩ := List.mem_map.mp here
    obtain ⟨_, _, same⟩ := List.mem_map.mp there
    exact apart (congrArg Prod.fst same).symm

theorem candidates_eq
    (visible : ∀ space, registry.visible space document scopeId = .ok (shown space)) :
    candidates registry source document scopeId = .ok ((offered source shown).map Prod.snd) := by
  have untagged : ∀ space, (shown space).map (Prod.snd ∘ Prod.mk space) = shown space :=
    fun space => List.map_id (shown space)
  cases source with
  | one space =>
      simp only [candidates, visible, offered, Source.spaces, List.flatMap_cons, List.flatMap_nil,
        List.append_nil, List.map_map, untagged]
  | both =>
      simp only [candidates, visible, offered, Source.spaces, List.flatMap_cons, List.flatMap_nil,
        List.append_nil, List.map_append, List.map_map, untagged]

/-- The admitted offers that begin with the fragment. -/
def leading (fragment : String) (admits : Symbol → Bool) (offers : List (Namespace × Symbol)) :
    List (Namespace × Symbol) :=
  (offers.filter fun offer => admits offer.2).filter fun offer => beginsWith fragment offer.2

/-- The admitted offers that contain the fragment behind their beginning. -/
def trailing (fragment : String) (admits : Symbol → Bool) (offers : List (Namespace × Symbol)) :
    List (Namespace × Symbol) :=
  (offers.filter fun offer => admits offer.2).filter fun offer =>
    !beginsWith fragment offer.2 && holds fragment offer.2

theorem rankBy_eq (triggers : canTrigger fragment = true) :
    rankBy (offers.map Prod.snd) fragment admits =
      (leading fragment admits offers ++ trailing fragment admits offers).map Prod.snd := by
  simp only [rankBy, triggers, if_true, leading, trailing, List.map_append, List.filter_map]
  rfl

theorem leading_sublist : (leading fragment admits offers).Sublist offers :=
  List.filter_sublist.trans List.filter_sublist

theorem trailing_sublist : (trailing fragment admits offers).Sublist offers :=
  List.filter_sublist.trans List.filter_sublist

theorem mem_leading_iff (offer : Namespace × Symbol) :
    offer ∈ leading fragment admits offers ↔
      offer ∈ offers ∧ admits offer.2 = true ∧ StartsWith fragment offer.2 := by
  rw [leading, List.mem_filter, List.mem_filter, beginsWith_iff, and_assoc]

theorem mem_trailing_iff (offer : Namespace × Symbol) :
    offer ∈ trailing fragment admits offers ↔
      offer ∈ offers ∧ admits offer.2 = true ∧ ¬ StartsWith fragment offer.2 ∧
        Contains fragment offer.2 := by
  rw [trailing, List.mem_filter, List.mem_filter, Bool.and_eq_true, holds_iff, ← beginsWith_iff,
    Bool.not_eq_true', Bool.not_eq_true, and_assoc]

theorem nodup_leading_append_trailing (distinct : offers.Nodup) :
    (leading fragment admits offers ++ trailing fragment admits offers).Nodup := by
  refine (distinct.sublist leading_sublist).append (distinct.sublist trailing_sublist) ?_
  intro offer first second
  exact ((mem_trailing_iff offer).mp second).2.2.1 ((mem_leading_iff offer).mp first).2.2

end Offers

/-! ## Suggestions -/

/-- Among symbols with different names each is found under its own. -/
theorem find?_name_eq_some_iff
    {symbols : List Symbol}
    (distinct : NamesDistinct symbols)
    (symbol : Symbol) :
    (symbols.find? fun other => other.name == symbol.name) = some symbol ↔ symbol ∈ symbols := by
  constructor
  · exact List.mem_of_find?_eq_some
  · intro member
    cases found : symbols.find? fun other => other.name == symbol.name with
    | none => simpa using List.find?_eq_none.mp found symbol member
    | some first =>
        have named : first.name = symbol.name := by simpa using List.find?_some found
        rw [List.inj_on_of_nodup_map distinct (List.mem_of_find?_eq_some found) member named]

/-- From a stored scope, and from outside every scope, symbols with different names are visible. -/
theorem exists_visible_distinct
    (forest : ScopeTree.Forest (registry.scopes.entries document))
    (known : ∀ id, scopeId = some id → registry.scopes.has document (some id) = true)
    (space : Namespace) :
    ∃ symbols, registry.visible space document scopeId = .ok symbols ∧ NamesDistinct symbols := by
  cases scopeId with
  | none => exact ⟨_, rfl, namesDistinct_firstByName _⟩
  | some id =>
      obtain ⟨scope, stored⟩ :=
        (ScopeTree.has_some_eq_true_iff registry.scopes document id).mp (known id rfl)
      obtain ⟨outer, chain⟩ := forest.grounded id scope stored
      exact ⟨_, Registry.visible_of_parentChain chain space, namesDistinct_firstByName _⟩

theorem resolve_eq_ok_some_iff
    {space : Namespace}
    {symbols : List Symbol}
    (visible : registry.visible space document scopeId = .ok symbols)
    (distinct : NamesDistinct symbols)
    (symbol : Symbol) :
    registry.resolve space document symbol.name scopeId = .ok (some symbol) ↔ symbol ∈ symbols := by
  rw [Registry.visible] at visible
  rw [Registry.resolve, resolveSymbol, visible, Except.ok.injEq, find?_name_eq_some_iff distinct]

theorem ranks_of_visible
    {shown : Namespace → List Symbol}
    (visible : ∀ space, registry.visible space document scopeId = .ok (shown space))
    (distinct : ∀ space, NamesDistinct (shown space)) :
    Ranks registry document scopeId fragment admits source
      (leading fragment admits (offered source shown) ++
        trailing fragment admits (offered source shown)) := by
  have exact (space : Namespace) (symbol : Symbol) :
      (space, symbol) ∈ leading fragment admits (offered source shown) ++
          trailing fragment admits (offered source shown) ↔
        space ∈ source.spaces ∧
          registry.resolve space document symbol.name scopeId = .ok (some symbol) ∧
            admits symbol = true ∧ Contains fragment symbol := by
    rw [List.mem_append, mem_leading_iff, mem_trailing_iff, mem_offered_iff,
      resolve_eq_ok_some_iff (visible space) (distinct space)]
    constructor
    · rintro (⟨⟨searched, member⟩, passes, starts⟩ | ⟨⟨searched, member⟩, passes, -, contains⟩)
      · exact ⟨searched, member, passes, starts.contains⟩
      · exact ⟨searched, member, passes, contains⟩
    · rintro ⟨searched, member, passes, contains⟩
      by_cases starts : StartsWith fragment symbol
      · exact Or.inl ⟨⟨searched, member⟩, passes, starts⟩
      · exact Or.inr ⟨⟨searched, member⟩, passes, starts, contains⟩
  have starts : ∀ offer ∈ leading fragment admits (offered source shown),
      StartsWith fragment offer.2 :=
    fun offer member => ((mem_leading_iff offer).mp member).2.2
  have misses : ∀ offer ∈ trailing fragment admits (offered source shown),
      ¬ StartsWith fragment offer.2 :=
    fun offer member => ((mem_trailing_iff offer).mp member).2.2.1
  refine ⟨nodup_leading_append_trailing (nodup_offered distinct), exact, ?bestFirst,
    ⟨shown, visible, ?leading, ?trailing⟩, ?unshadowed⟩
  case bestFirst =>
    refine List.pairwise_append.mpr ⟨?_, ?_, ?_⟩
    · exact List.pairwise_of_forall_mem_list fun earlier member _ _ _ => starts earlier member
    · exact List.pairwise_of_forall_mem_list fun _ _ later member begins =>
        absurd begins (misses later member)
    · exact fun earlier member _ _ _ => starts earlier member
  case leading =>
    rw [List.filter_append, List.filter_eq_self.mpr (by simpa using starts),
      List.filter_eq_nil_iff.mpr (by simpa using misses), List.append_nil]
    exact leading_sublist
  case trailing =>
    rw [List.filter_append, List.filter_eq_nil_iff.mpr (by simpa using starts),
      List.filter_eq_self.mpr (by simpa using misses), List.nil_append]
    exact trailing_sublist
  case unshadowed =>
    intro space symbol other apart means member
    have found := ((exact space symbol).mp member).2.1
    rw [means] at found
    cases found
    exact apart rfl

/-- In every registry that some run comes to, from every stored scope and from outside all scopes,
a fragment that can begin a name is answered by exactly the admitted symbols that names mean there
and that contain it, ranked; any other fragment is answered by nothing. -/
theorem suggestBy_ranks
    {registry : Registry}
    (reachable : registry.Reachable)
    (document : String)
    {scopeId : Option String}
    (known : ∀ id, scopeId = some id → registry.scopes.has document (some id) = true)
    (fragment : String)
    (admits : Symbol → Bool)
    (source : Source) :
    (¬ BeginsName fragment →
      suggestBy registry document scopeId fragment admits source = .ok []) ∧
      (BeginsName fragment → ∃ ranked,
        suggestBy registry document scopeId fragment admits source = .ok (ranked.map Prod.snd) ∧
          Ranks registry document scopeId fragment admits source ranked) := by
  rw [← canTrigger_iff, suggestBy]
  constructor
  · intro closed
    rw [if_neg closed]
  · intro triggers
    have forest := (reachable.consistent document).forest
    choose shown visible distinct using exists_visible_distinct forest known
    rw [if_pos triggers, candidates_eq visible]
    exact ⟨_, congrArg Except.ok (rankBy_eq triggers), ranks_of_visible visible distinct⟩

/-- In the loop of a function body, where the loop hides a global variable. -/
theorem suggestBy_ranks_while_shadowing :
    (Dispatch.asking Operation.shadowing).registry.Reachable ∧
      (∀ id, some "loop" = some id →
        (Dispatch.asking Operation.shadowing).registry.scopes.has "main" (some id) = true) ∧
      BeginsName "i" ∧
      ∃ ranked,
        suggestBy (Dispatch.asking Operation.shadowing).registry "main" (some "loop") "i"
            (fun _ => true) .both = .ok (ranked.map Prod.snd) ∧
          Ranks (Dispatch.asking Operation.shadowing).registry "main" (some "loop") "i"
            (fun _ => true) .both ranked := by
  have reachable := (Dispatch.reachable_asking Operation.shadowing).registry
  have known : ∀ id, some "loop" = some id →
      (Dispatch.asking Operation.shadowing).registry.scopes.has "main" (some id) = true := by
    rintro id ⟨rfl⟩
    decide
  have begins : BeginsName "i" := ⟨'i', [], by decide, Or.inl (by decide)⟩
  exact ⟨reachable, known, begins,
    (suggestBy_ranks reachable "main" known "i" (fun _ => true) .both).2 begins⟩

end LuauNodes.Completion
