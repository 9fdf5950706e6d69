import LuauNodes.Proofs.Registry.ActiveHistory
import LuauNodes.Proofs.Registry.Announcement

/-!
# Announcement of the current scope

The current scope of a document changes when a scope is entered, and when the
current scope itself ends: because it is left, because its document is cleared,
or because it is destroyed with itself or with a scope around it.  All of these
but the destruction tell of it: a destruction takes the scopes off the stack on
the way, and is told of as a change of symbols and scopes alone.
-/

namespace LuauNodes

/-- An event makes a listener look again at the current scope of a document. -/
def Event.TellsOfCurrent (event : Event) (document : String) : Prop :=
  event.document = document ∧ (event.kind = .activeScopeChanged ∨ event.kind = .documentCleared)

instance (event : Event) (document : String) : Decidable (event.TellsOfCurrent document) :=
  inferInstanceAs (Decidable (_ ∧ _))

namespace Moment

variable {document : String} {moment : Moment} {before after : List String}

/-- The current scope of a document ends. -/
def EndsCurrent (document : String) (moment : Moment) : Prop :=
  ∃ id, moment.registry.scopes.current? document = some id ∧ moment.Ends document id

/-- The current scope of a document is destroyed, with itself or with a scope around it. -/
def DestroysCurrent (document : String) (moment : Moment) : Prop :=
  (∃ other id, moment.operation = .destroyScope other id) ∧ moment.EndsCurrent document

/-- Where nothing is entered and the last scope does not end, it stays the last one. -/
theorem Restacks.getLast?
    (restacks : moment.Restacks document before after)
    (once : before.Nodup)
    (idle : moment.entered? document = none)
    (stays : ∀ id, before.getLast? = some id → ¬moment.Ends document id) :
    after.getLast? = before.getLast? := by
  obtain ⟨kept, sublist, keeps, rfl⟩ := restacks
  rw [idle, Option.toList_none, List.append_nil]
  rcases List.eq_nil_or_concat' before with rfl | ⟨lower, top, rfl⟩
  · rw [List.sublist_nil.mp sublist]
  · have last : (lower ++ [top]).getLast? = some top := List.getLast?_concat
    have inside : top ∈ kept := (keeps top).mpr ⟨by simp, by simp [idle], stays top last⟩
    obtain ⟨below, above, rfl, belowLower, aboveTop⟩ := List.sublist_append_iff.mp sublist
    -- The top is kept above, as it does not stand on the stack a second time.
    have apart : top ∉ below := by
      intro member
      exact (List.nodup_append.mp once).2.2 top (belowLower.subset member) top (by simp) rfl
    have member : top ∈ above := (List.mem_append.mp inside).resolve_left apart
    have whole : above = [top] := by
      rcases List.sublist_singleton.mp aboveTop with rfl | same
      · cases member
      · exact same
    rw [whole, last, List.getLast?_concat]

/-- Where nothing is entered, a scope that ends is not the last one. -/
theorem Restacks.getLast?_ne
    (restacks : moment.Restacks document before after)
    (idle : moment.entered? document = none)
    {id : String}
    (ends : moment.Ends document id) :
    after.getLast? ≠ some id := by
  obtain ⟨kept, -, keeps, rfl⟩ := restacks
  rw [idle, Option.toList_none, List.append_nil]
  intro last
  exact ((keeps id).mp (List.mem_of_getLast? last)).2.2 ends

end Moment

namespace Registry

variable {registry after : Registry} {document : String} {events : List Event}

/-- No scope is active twice. -/
theorem Reachable.nodup_stack
    (reachable : registry.Reachable)
    (document : String) :
    (registry.scopes.stack document).Nodup := by
  obtain ⟨tasks, reached⟩ := reachable
  obtain ⟨history, chronicle⟩ := reached.exists_chronicle
  exact (chronicle.tells document).once

/-- The events of a destruction are about symbols and scopes. -/
theorem not_tellsOfCurrent_destroyScope
    (registry : Registry)
    (document id other : String) :
    ∀ event ∈ (registry.destroyScope document id).events, ¬event.TellsOfCurrent other := by
  have symbols : ∀ (space : Namespace) (scopeId : String) (rest : Registry),
      ∀ event ∈ (dropMembers space document scopeId rest).events, ¬event.TellsOfCurrent other := by
    intro space scopeId rest event member
    obtain ⟨key, _, rfl⟩ := List.mem_map.mp member
    cases space <;> simp [Event.TellsOfCurrent, Namespace.eventKind]
  -- The induction is on the scopes whose symbols are still to be dropped.
  have drops : ∀ (removed : List String) (change : Change (List String)),
      (∀ event ∈ change.events, ¬event.TellsOfCurrent other) →
        ∀ event ∈ (removed.foldl (dropOwned document) change).events,
          ¬event.TellsOfCurrent other := by
    intro removed
    induction removed with
    | nil => exact fun _ silent => silent
    | cons scopeId rest ih =>
        refine fun change silent => ih _ ?_
        rw [dropOwned, Change.followedBy, Change.followedBy, List.forall_mem_append,
          List.forall_mem_append]
        exact ⟨⟨silent, symbols .vars scopeId _⟩, symbols .functions scopeId _⟩
  cases found : registry.scopes.get? document (some id) with
  | none =>
      rw [destroyScope_of_missing found]
      exact fun _ none => absurd none List.not_mem_nil
  | some scope =>
      rw [destroyScope_eq found, Change.announcing, List.forall_mem_append,
        List.forall_mem_singleton]
      exact ⟨drops _ _ fun _ none => absurd none List.not_mem_nil, by simp [Event.TellsOfCurrent]⟩

end Registry

/-- A change of the current scope of a document is told of, unless the scope is destroyed; then only
a change of the scopes is. -/
structure Registry.CurrentTold
    (registry after : Registry)
    (operation : Operation)
    (events : List Event)
    (document : String) :
    Prop where
  /-- Without an event for the current scope it stays the same, unless it is destroyed. -/
  told : after.scopes.current? document ≠ registry.scopes.current? document →
    ¬Moment.DestroysCurrent document ⟨registry, operation⟩ →
      ∃ event ∈ events, event.TellsOfCurrent document
  /-- A current scope that is destroyed goes without an event of its own. -/
  destroyed : Moment.DestroysCurrent document ⟨registry, operation⟩ →
    after.scopes.current? document ≠ registry.scopes.current? document ∧
      (∀ event ∈ events, ¬event.TellsOfCurrent document) ∧
      ∃ event ∈ events, event.TellsOfScopes document

namespace Moment

variable {registry after : Registry} {document : String} {events : List Event}

theorem told_of_entered
    {operation : Operation}
    (accepted : operation.effect registry = .ok (after, events))
    {id : String}
    (entered : entered? document ⟨registry, operation⟩ = some id) :
    ∃ event ∈ events, event.TellsOfCurrent document := by
  unfold entered? at entered
  split at entered
  · rename_i other scopeId same
    obtain ⟨⟨rfl, result⟩, -⟩ := Option.ite_none_right_eq_some.mp entered
    dsimp only at same result
    subst same
    cases accepted
    unfold Registry.enterScope at result ⊢
    split at result
    · exact ⟨_, List.mem_singleton_self _, rfl, Or.inl rfl⟩
    · cases result
  · cases entered

theorem told_of_endsCurrent
    {operation : Operation}
    (accepted : operation.effect registry = .ok (after, events))
    (ends : EndsCurrent document ⟨registry, operation⟩)
    (stays : ¬DestroysCurrent document ⟨registry, operation⟩) :
    ∃ event ∈ events, event.TellsOfCurrent document := by
  obtain ⟨id, current, ended⟩ := ends
  cases operation with
  | exitScope other scopeId =>
      obtain ⟨rfl, rfl⟩ := ended
      cases accepted
      have active : registry.scopes.isActive other scopeId = true :=
        List.contains_iff_mem.mpr (List.mem_of_getLast? current)
      rw [Registry.exitScope, if_pos active]
      exact ⟨_, List.mem_singleton_self _, rfl, Or.inl rfl⟩
  | clearDocument other =>
      obtain rfl : other = document := ended
      cases accepted
      exact ⟨_, List.mem_singleton_self _, rfl, Or.inr rfl⟩
  | destroyScope other scopeId => exact absurd ⟨⟨other, scopeId, rfl⟩, id, current, ended⟩ stays
  | _ => exact ended.elim

/-- In every registry that some run comes to, every operation tells of the current scope of every
document that it changes, except for a destruction that takes the current scope along. -/
theorem currentTold_of_effect
    (reachable : registry.Reachable)
    (operation : Operation)
    (accepted : operation.effect registry = .ok (after, events))
    (document : String) :
    registry.CurrentTold after operation events document := by
  have restacks := restacks_of_effect reachable operation accepted document
  constructor
  case told =>
    intro changed stays
    cases entered : entered? document ⟨registry, operation⟩ with
    | some id => exact told_of_entered accepted entered
    | none =>
        have ends : EndsCurrent document ⟨registry, operation⟩ := by
          by_contra goesOn
          refine changed (restacks.getLast? (reachable.nodup_stack document) entered ?_)
          exact fun id current ended => goesOn ⟨id, current, ended⟩
        exact told_of_endsCurrent accepted ends stays
  case destroyed =>
    rintro ⟨⟨other, target, same⟩, id, current, ends⟩
    dsimp only at same
    subst same
    obtain rfl : other = document := ends.1
    have changed : after.scopes.current? other ≠ registry.scopes.current? other := by
      rw [show registry.scopes.current? other = some id from current]
      exact restacks.getLast?_ne rfl ends
    cases accepted
    refine ⟨changed, registry.not_tellsOfCurrent_destroyScope other target other, ?_⟩
    cases found : registry.scopes.get? other (some target) with
    | none =>
        rw [Registry.destroyScope_of_missing found] at changed
        exact absurd rfl changed
    | some scope =>
        rw [Registry.destroyScope_eq found, Change.announcing]
        exact ⟨_, List.mem_append_right _ (List.mem_singleton_self _), rfl, Or.inl rfl⟩

end Moment

/-- A scope is entered, and another one inside it. -/
def Operation.entering : List Operation :=
  [.createScope "main" (.fresh "body" .function none none),
    .createScope "main" (.fresh "loop" .loop (some "body") none),
    .enterScope "main" (some "body"),
    .enterScope "main" (some "loop")]

theorem Moment.currentTold_of_exit :
    (Dispatch.asking Operation.entering).registry.Reachable ∧
      (Operation.exitScope "main" "loop").effect (Dispatch.asking Operation.entering).registry =
        .ok ((Dispatch.asking Operation.entering).registry.exitScope "main" "loop").effect ∧
      ((Dispatch.asking Operation.entering).registry.exitScope "main"
        "loop").registry.scopes.current? "main" = some "body" ∧
      (Dispatch.asking Operation.entering).registry.CurrentTold
        ((Dispatch.asking Operation.entering).registry.exitScope "main" "loop").registry
        (.exitScope "main" "loop")
        ((Dispatch.asking Operation.entering).registry.exitScope "main" "loop").events "main" :=
  ⟨(Dispatch.reachable_asking _).registry, rfl, by decide +kernel,
    currentTold_of_effect (Dispatch.reachable_asking _).registry (.exitScope "main" "loop") rfl
      "main"⟩

/-- The current scope is gone with the scope around it, and no event tells of it. -/
theorem Registry.current_destroyed_untold :
    (Dispatch.asking Operation.entering).registry.Reachable ∧
      (Dispatch.asking Operation.entering).registry.scopes.current? "main" = some "loop" ∧
      ((Dispatch.asking Operation.entering).registry.destroyScope "main"
        "body").registry.scopes.current? "main" = none ∧
      ((Dispatch.asking Operation.entering).registry.destroyScope "main" "body").events =
        [⟨"main", .scopesChanged, none, some "body"⟩] :=
  ⟨(Dispatch.reachable_asking _).registry, by decide +kernel, by decide +kernel,
    by decide +kernel⟩

end LuauNodes
