import LuauNodes.Proofs.Registry.Announcement
import LuauNodes.Proofs.Registry.Ownership
import LuauNodes.Proofs.Workspace.Activities
import LuauNodes.Session.Delivery

/-!
# Delivery of events

What listeners find when they are told of an event.  An operation is complete
before its first event is told, and listeners that only look on leave the
registry as it is, so that each of them finds it in the state in which the
operation ends.  Clearing everything is one such operation after the other.
-/

namespace LuauNodes

variable {η : Type}

/-- Two workspaces have the same registry, and hold the same parts of it. -/
structure Workspace.SameHoldings (before after : Workspace η) : Prop where
  registry : after.registry = before.registry
  watches : after.watches = before.watches
  mounts : after.mounts = before.mounts
  bindings : after.bindings = before.bindings

theorem Workspace.SameHoldings.refl (workspace : Workspace η) : workspace.SameHoldings workspace :=
  ⟨rfl, rfl, rfl, rfl⟩

theorem Workspace.SameHoldings.trans
    {before middle after : Workspace η}
    (first : before.SameHoldings middle)
    (second : middle.SameHoldings after) :
    before.SameHoldings after :=
  ⟨second.registry.trans first.registry, second.watches.trans first.watches,
    second.mounts.trans first.mounts, second.bindings.trans first.bindings⟩

namespace Act

variable {tell : Event → Act η Unit} {Calm : η → Prop} {before after : Workspace η}

/-! ## Listeners that look on -/

/-- While what the user keeps is calm, telling of an event ends, writes to nothing but the log and
what the user keeps, and leaves that calm. -/
def LooksOn (tell : Event → Act η Unit) (Calm : η → Prop) : Prop :=
  ∀ event before, Calm before.rest →
    (tell event).Ensures before fun _ after => before.SameHoldings after ∧ Calm after.rest

/-- Events are told one after the other, and whoever is told finds the given registry. -/
inductive Told (tell : Event → Act η Unit) (registry : Registry) :
    List Event → Workspace η → Workspace η → Prop where
  | all
      {workspace : Workspace η}
      (found : workspace.registry = registry) :
      Told tell registry [] workspace workspace
  | next
      {event : Event}
      {rest : List Event}
      {before middle after : Workspace η}
      (found : before.registry = registry)
      (ended : (tell event).outcome before = (.ok (), middle))
      (later : Told tell registry rest middle after) :
      Told tell registry (event :: rest) before after

/-- Listeners that look on are told of all events, and find the registry as it is at first. -/
theorem LooksOn.ensures_told
    (looksOn : LooksOn tell Calm)
    (calm : Calm before.rest)
    (events : List Event) :
    (events.forM tell).Ensures before fun _ after =>
      Told tell before.registry events before after ∧ before.SameHoldings after ∧
        Calm after.rest := by
  induction events generalizing before with
  | nil => exact (ensures_pure () _).mpr ⟨.all rfl, .refl before, calm⟩
  | cons event rest ih =>
      obtain ⟨_, middle, ended, same, calmStill⟩ := looksOn event before calm
      show ((tell event >>= fun _ => rest.forM tell) : Act η Unit).Ensures before _
      rw [ensures_bind]
      refine ⟨_, middle, ended, (ih calmStill).mono ?_⟩
      rintro _ after ⟨told, sameStill, calmAfter⟩
      exact ⟨.next rfl ended (same.registry ▸ told), same.trans sameStill, calmAfter⟩

/-! ## Operations -/

/-- An operation in a workspace, with its events. -/
def carryOut (tell : Event → Act η Unit) : Operation → Act η Unit
  | .declare space document symbol =>
    discard (perform tell fun registry => registry.declare space document symbol)
  | .revise space document name scopeId fields =>
    discard (perform tell fun registry => registry.revise space document name scopeId fields)
  | .remove space document name scopeId =>
    discard (perform tell fun registry => registry.remove space document name scopeId)
  | .clearSymbols space document =>
    perform tell fun registry => registry.clearSymbols space document
  | .createScope document scope => discard (createScope tell document scope)
  | .destroyScope document scopeId =>
    discard (perform tell fun registry => registry.destroyScope document scopeId)
  | .enterScope document scopeId =>
    discard (perform tell fun registry => registry.enterScope document scopeId)
  | .exitScope document scopeId =>
    discard (perform tell fun registry => registry.exitScope document scopeId)
  | .clearDocument document => perform tell fun registry => registry.clearDocument document

@[simp]
theorem ensures_perform
    {α : Type}
    (operation : Registry → Change α)
    (post : α → Workspace η → Prop) :
    (perform tell operation).Ensures before post ↔
      ((operation before.registry).events.forM tell).Ensures
        (before.adopt (operation before.registry))
        fun _ after => post (operation before.registry).result after := by
  simp [perform]

/-- An operation ends with some events told, each of them in the registry that it makes.  What the
user keeps is as it was before when the first of them is told. -/
structure Finished
    (tell : Event → Act η Unit)
    (rest : η)
    (final : Registry)
    (events : List Event)
    (after : Workspace η) :
    Prop where
  told : ∃ committed, committed.rest = rest ∧ Told tell final events committed after
  registry : after.registry = final

theorem LooksOn.finished
    (looksOn : LooksOn tell Calm)
    (calm : Calm before.rest)
    (events : List Event) :
    (events.forM tell).Ensures before fun _ after =>
      Finished tell before.rest before.registry events after ∧ Calm after.rest := by
  refine (looksOn.ensures_told calm events).mono ?_
  rintro _ after ⟨told, same, calmAfter⟩
  exact ⟨⟨⟨before, rfl, told⟩, same.registry⟩, calmAfter⟩

theorem LooksOn.perform
    {α : Type}
    (looksOn : LooksOn tell Calm)
    (calm : Calm before.rest)
    (operation : Registry → Change α) :
    (perform tell operation).Ensures before fun _ after =>
      Finished tell before.rest (operation before.registry).registry
          (operation before.registry).events after ∧
        Calm after.rest := by
  have calmStill : Calm (before.adopt (operation before.registry)).rest := calm
  rw [ensures_perform]
  exact looksOn.finished calmStill _

theorem LooksOn.createScope
    (looksOn : LooksOn tell Calm)
    (calm : Calm before.rest)
    {document : String}
    {scope : Scope}
    {change : Change (Option Scope)}
    (created : before.registry.createScope document scope = .ok change) :
    (createScope tell document scope).Ensures before fun _ after =>
      Finished tell before.rest change.registry change.events after ∧ Calm after.rest := by
  have finished : ∀ workspace : Workspace η, workspace.registry = change.registry →
      workspace.rest = before.rest →
      (change.events.forM tell).Ensures workspace fun _ after =>
        Finished tell before.rest change.registry change.events after ∧ Calm after.rest := by
    intro workspace committed kept
    rw [← committed, ← kept]
    exact looksOn.finished (kept ▸ calm) change.events
  unfold Act.createScope
  simp only [ensures_bind, ensures_registry, created, ensures_ofTree_ok, ensures_commit,
    ensures_pure]
  cases change.result with
  | none => exact (ensures_pure _ _).mpr (finished _ rfl rfl)
  | some stored =>
      simp only [Option.mapM_some, follow, ensures_map, ensures_bind, ensures_get, ensures_modify,
        ensures_pure]
      exact finished _ rfl rfl

/-- In a workspace with listeners that look on, an operation that is accepted comes to its end. -/
theorem LooksOn.carryOut
    (looksOn : LooksOn tell Calm)
    (calm : Calm before.rest)
    {operation : Operation}
    {final : Registry}
    {events : List Event}
    (accepted : operation.effect before.registry = .ok (final, events)) :
    (carryOut tell operation).Ensures before fun _ after =>
      Finished tell before.rest final events after ∧ Calm after.rest := by
  cases operation with
  | createScope document scope =>
      rw [Operation.effect] at accepted
      cases created : before.registry.createScope document scope with
      | error fault => simp [created, Except.map] at accepted
      | ok change =>
          rw [created] at accepted
          cases accepted
          exact (ensures_discard _).mpr (looksOn.createScope calm created)
  | clearSymbols space document =>
      cases accepted
      exact looksOn.perform calm _
  | clearDocument document =>
      cases accepted
      exact looksOn.perform calm _
  | _ =>
      cases accepted
      exact (ensures_discard _).mpr (looksOn.perform calm _)

end Act

/-! ## Sequences of operations -/

/-- An operation was carried out: it came to its end, nobody was told of anything before the
registry was what it is at the end, and the events announce what was changed. -/
structure Operation.CarriedOut
    (operation : Operation)
    (tell : Event → Act η Unit)
    (before after : Workspace η) :
    Prop where
  ended : (Act.carryOut tell operation).outcome before = (.ok (), after)
  told : ∃ events, operation.effect before.registry = .ok (after.registry, events) ∧
    (∃ committed, committed.rest = before.rest ∧
      Act.Told tell after.registry events committed after) ∧
    before.registry.Announced after.registry events

/-- Operations were carried out one after the other. -/
inductive Operation.CarriedOutInTurn (tell : Event → Act η Unit) :
    List Operation → Workspace η → Workspace η → Prop where
  | all (workspace : Workspace η) : CarriedOutInTurn tell [] workspace workspace
  | next
      {operation : Operation}
      {rest : List Operation}
      {before middle after : Workspace η}
      (first : operation.CarriedOut tell before middle)
      (later : CarriedOutInTurn tell rest middle after) :
      CarriedOutInTurn tell (operation :: rest) before after

theorem Operation.CarriedOutInTurn.append
    {tell : Event → Act η Unit}
    {first second : List Operation}
    {before middle after : Workspace η}
    (one : CarriedOutInTurn tell first before middle)
    (two : CarriedOutInTurn tell second middle after) :
    CarriedOutInTurn tell (first ++ second) before after := by
  induction one with
  | all workspace => exact two
  | next operation _ ih => exact .next operation (ih two)

/-- What every request for a change of the registry comes to in a workspace. -/
structure Workspace.Announces (tell : Event → Act η Unit) (before : Workspace η) : Prop where
  /-- An operation is carried out, unless it asks for the global scope, which leaves everything as
  it is. -/
  operation : ∀ operation : Operation,
    (∃ after, operation.CarriedOut tell before after) ∨
      ∃ document scope, operation = .createScope document scope ∧ scope.kind = .global ∧
        (Act.carryOut tell operation).outcome before = (.error (.tree .globalScope), before)
  /-- Clearing everything clears every document in turn. -/
  clearAll : ∃ after, (Act.clearAll tell).outcome before = (.ok (), after) ∧
    Operation.CarriedOutInTurn tell (before.registry.documents.map .clearDocument) before after

namespace Act

variable {tell : Event → Act η Unit} {Calm : η → Prop} {before : Workspace η}

theorem LooksOn.carriedOut
    (looksOn : LooksOn tell Calm)
    (calm : Calm before.rest)
    (reachable : before.registry.Reachable)
    {operation : Operation}
    {final : Registry}
    {events : List Event}
    (accepted : operation.effect before.registry = .ok (final, events)) :
    ∃ after, operation.CarriedOut tell before after ∧ after.registry.Reachable ∧
      Calm after.rest := by
  obtain ⟨_, after, ended, finished, calmAfter⟩ := looksOn.carryOut calm accepted
  obtain rfl := finished.registry
  refine ⟨after, ⟨ended, events, accepted, finished.told, ?_⟩, ?_, calmAfter⟩
  · exact reachable.consistent.announced operation accepted
  · obtain ⟨tasks, reached⟩ := reachable
    exact ⟨_, .step reached (.operate operation tasks accepted)⟩

/-- Only the global scope is refused with an error. -/
theorem effect_accepted_or
    {registry : Registry}
    (consistent : registry.Consistent)
    (operation : Operation) :
    (∃ final events, operation.effect registry = .ok (final, events)) ∨
      ∃ document scope, operation = .createScope document scope ∧ scope.kind = .global := by
  cases operation with
  | createScope document scope =>
      by_cases outside : scope.kind = .global
      · exact Or.inr ⟨document, scope, rfl, outside⟩
      · obtain ⟨change, created, _⟩ := consistent.createScope document outside
        refine Or.inl ⟨change.registry, change.events, ?_⟩
        rw [Operation.effect, created]
        rfl
  | _ => exact Or.inl ⟨_, _, rfl⟩

theorem outcome_createScope_global
    (tell : Event → Act η Unit)
    (before : Workspace η)
    (document : String)
    {scope : Scope}
    (outside : scope.kind = .global) :
    (carryOut tell (.createScope document scope)).outcome before =
      (.error (.tree .globalScope), before) := by
  have refused : before.registry.createScope document scope = .error .globalScope := by
    rw [Registry.createScope, ScopeTree.create_eq_error_of_global outside]
  have asked : (registry : Act η Registry).outcome before = (.ok before.registry, before) := rfl
  have failed : (ofTree (.error .globalScope) : Act η (Change (Option Scope))).outcome before =
      (.error (.tree .globalScope), before) := rfl
  show ((fun _ => ()) <$> createScope tell document scope : Act η Unit).outcome before = _
  rw [← bind_pure_comp, outcome_bind, createScope, outcome_bind, asked]
  dsimp only
  rw [outcome_bind, refused, failed]

theorem LooksOn.clearAll
    (looksOn : LooksOn tell Calm)
    (calm : Calm before.rest)
    (reachable : before.registry.Reachable) :
    (clearAll tell).Ensures before fun _ after =>
      Operation.CarriedOutInTurn tell (before.registry.documents.map .clearDocument) before
        after := by
  let cleared (done : List String) (workspace : Workspace η) : Prop :=
    Operation.CarriedOutInTurn tell (done.map .clearDocument) before workspace ∧
      workspace.registry.Reachable ∧ Calm workspace.rest
  have start : cleared [] before := ⟨.all before, reachable, calm⟩
  have loop : ((forIn before.registry.documents PUnit.unit fun document _ => do
      Act.carryOut tell (.clearDocument document)
      pure (.yield PUnit.unit)) : Act η PUnit).Ensures before
        fun _ after => cleared before.registry.documents after := by
    refine ensures_forIn cleared start ?_
    rintro done document rest workspace - ⟨inTurn, reachableStill, calmStill⟩
    obtain ⟨after, carried, reachableAfter, calmAfter⟩ :=
      looksOn.carriedOut calmStill reachableStill
        (Eq.refl (Operation.effect _ (.clearDocument document)))
    rw [ensures_bind]
    refine ⟨(), after, carried.ended, (ensures_pure _ _).mpr ⟨rfl, ?_, reachableAfter, calmAfter⟩⟩
    rw [List.map_append]
    exact inTurn.append (.next carried (.all after))
  unfold Act.clearAll
  simp only [ensures_bind, ensures_registry]
  refine loop.mono fun _ after kept => ?_
  exact (ensures_pure _ _).mpr kept.1

end Act

/-! ## Listeners of a session -/

namespace Session

open Act

/-- No listener of a session has requests to make. -/
def Idle (session : Session) : Prop := ∀ listener ∈ session.listeners, listener.script = []

/-- What a session keeps once a listener was told of an event. -/
def hearing
    (session : Session)
    (registry : Registry)
    (event : Event)
    (place : Nat)
    (listener : Listener) :
    Session :=
  (listener.dismissals.foldl dismiss
    (session.record ⟨listener.handle, event, registry.sizes event.document⟩)).exhaust place

theorem listeners_foldl_dismiss (handles : List String) (session : Session) :
    (handles.foldl dismiss session).listeners = session.listeners := by
  induction handles generalizing session with
  | nil => rfl
  | cons handle rest ih =>
      rw [List.foldl_cons, ih, dismiss]
      split <;> rfl

theorem analyses_foldl_dismiss (handles : List String) (session : Session) :
    (handles.foldl dismiss session).analyses = session.analyses := by
  induction handles generalizing session with
  | nil => rfl
  | cons handle rest ih =>
      rw [List.foldl_cons, ih, dismiss]
      split <;> rfl

theorem analyses_hearing
    (session : Session)
    (registry : Registry)
    (event : Event)
    (place : Nat)
    (listener : Listener) :
    (session.hearing registry event place listener).analyses = session.analyses :=
  analyses_foldl_dismiss listener.dismissals _

theorem Idle.hearing
    {session : Session}
    (idle : session.Idle)
    (registry : Registry)
    (event : Event)
    (place : Nat)
    (listener : Listener) :
    (session.hearing registry event place listener).Idle := by
  intro heard member
  have listeners : (session.hearing registry event place listener).listeners =
      session.listeners.modify place fun listener => { listener with script := [] } :=
    congrArg (List.modify · place _) (listeners_foldl_dismiss listener.dismissals _)
  rw [listeners] at member
  obtain ⟨index, found⟩ := List.mem_iff_getElem?.mp member
  rw [List.getElem?_modify] at found
  obtain ⟨former, formerAt, rfl⟩ := Option.map_eq_some_iff.mp found
  by_cases here : place = index
  · rw [if_pos here]
  · rw [if_neg here]
    exact idle former (List.mem_of_getElem? formerAt)

/-- What a listener does once it has noted an event. -/
def respond (run : Request → Act Session Response) (listener : Listener) : Act Session Unit := do
  listener.script.forM fun request => discard (run request)
  if listener.fails then Act.fail .requested

theorem outcome_rest (before : Workspace Session) :
    (Act.rest : Act Session Session).outcome before = (.ok before.rest, before) := rfl

/-- Where there is no listener nobody is told. -/
theorem outcome_callListener_of_absent
    (run : Request → Act Session Response)
    (event : Event)
    {place : Nat}
    {before : Workspace Session}
    (absent : before.rest.listeners[place]? = none) :
    (callListener run event place).outcome before = (.ok (), before) := by
  unfold callListener
  rw [outcome_bind, outcome_rest]
  dsimp only
  rw [absent]
  rfl

/-- A listener notes the event, ends subscriptions and has its script used up before it does
anything else. -/
theorem outcome_callListener_of_found
    (run : Request → Act Session Response)
    (event : Event)
    {place : Nat}
    {before : Workspace Session}
    {listener : Listener}
    (found : before.rest.listeners[place]? = some listener) :
    (callListener run event place).outcome before =
      (respond run listener).outcome
        { before with rest := before.rest.hearing before.registry event place listener } := by
  unfold callListener
  rw [outcome_bind, outcome_rest]
  dsimp only
  rw [found]
  rfl

theorem outcome_callListener
    (run : Request → Act Session Response)
    (event : Event)
    {place : Nat}
    {before : Workspace Session}
    {listener : Listener}
    (found : before.rest.listeners[place]? = some listener)
    (scriptless : listener.script = []) :
    (callListener run event place).outcome before =
      (if listener.fails then .error .requested else .ok (),
        { before with rest := before.rest.hearing before.registry event place listener }) := by
  rw [outcome_callListener_of_found run event found, respond, scriptless]
  cases listener.fails <;> rfl

/-- Listeners without requests look on, whether they fail or not. -/
theorem looksOn_publish (run : Request → Act Session Response) (analyses : List Analysis) :
    LooksOn (publish run) fun session => session.Idle ∧ session.analyses = analyses := by
  rintro event before calm
  let kept (workspace : Workspace Session) : Prop :=
    before.SameHoldings workspace ∧ workspace.rest.Idle ∧ workspace.rest.analyses = analyses
  have told : ∀ place workspace, kept workspace →
      (tellListener run event place).Ensures workspace fun _ after => kept after := by
    intro place workspace holds
    unfold Ensures tellListener
    rw [outcome_tryCatch]
    cases found : workspace.rest.listeners[place]? with
    | none =>
        rw [outcome_callListener_of_absent run event found]
        exact ⟨(), workspace, rfl, holds⟩
    | some listener =>
        obtain ⟨same, idle, analysesKept⟩ := holds
        have keptStill : kept { workspace with
            rest := workspace.rest.hearing workspace.registry event place listener } :=
          ⟨⟨same.registry, same.watches, same.mounts, same.bindings⟩, idle.hearing _ _ _ _,
            (analyses_hearing _ _ _ _ _).trans analysesKept⟩
        rw [outcome_callListener run event found (idle listener (List.mem_of_getElem? found))]
        cases listener.fails with
        | false => exact ⟨(), _, rfl, keptStill⟩
        | true =>
            obtain ⟨sameStill, idleStill, analysesStill⟩ := keptStill
            refine ⟨(), _, rfl, ?_⟩
            exact ⟨⟨sameStill.registry, sameStill.watches, sameStill.mounts, sameStill.bindings⟩,
              idleStill, analysesStill⟩
  unfold publish
  rw [ensures_bind, ensures_rest]
  exact ensures_forM kept ⟨.refl before, calm⟩ fun place _ workspace holds =>
    told place workspace holds

end Session

/-! ## Every change of the registry -/

/-- In a workspace with listeners that look on, every change of a registry that some run comes to is
announced, and announced in its final state. -/
theorem Act.LooksOn.announces
    {tell : Event → Act η Unit}
    {Calm : η → Prop}
    {before : Workspace η}
    (looksOn : LooksOn tell Calm)
    (calm : Calm before.rest)
    (reachable : before.registry.Reachable) :
    before.Announces tell where
  operation := by
    intro operation
    rcases effect_accepted_or reachable.consistent operation with
      ⟨final, events, accepted⟩ | ⟨document, scope, rfl, outside⟩
    · obtain ⟨after, carried, _⟩ := looksOn.carriedOut calm reachable accepted
      exact Or.inl ⟨after, carried⟩
    · exact Or.inr ⟨document, scope, rfl, outside,
        outcome_createScope_global tell before document outside⟩
  clearAll := by
    obtain ⟨_, after, ended, inTurn⟩ := looksOn.clearAll calm reachable
    exact ⟨after, ended, inTurn⟩

/-- A workspace with the given registry, of a session with a listener that fails whenever it is told
of something. -/
def Workspace.watched (registry : Registry) : Workspace Session :=
  { Workspace.fresh (Session.fresh.subscribe ⟨"watcher", none, true, [], []⟩) with
    registry := registry }

/-- Every change is announced to a listener that fails each time, where variables shadow one
another. -/
theorem Workspace.announces_while_shadowing :
    (Dispatch.asking Operation.shadowing).registry.Reachable ∧
      (Workspace.watched (Dispatch.asking Operation.shadowing).registry).rest.Idle ∧
      (Workspace.watched (Dispatch.asking Operation.shadowing).registry).Announces
        (Session.publish fun _ => pure .nothing) := by
  have reachable := (Dispatch.reachable_asking Operation.shadowing).registry
  have idle : (Workspace.watched (Dispatch.asking Operation.shadowing).registry).rest.Idle := by
    simp [Workspace.watched, Workspace.fresh, Session.Idle, Session.subscribe, Session.fresh]
  exact ⟨reachable, idle,
    Act.LooksOn.announces (Session.looksOn_publish _ _) ⟨idle, rfl⟩ reachable⟩

end LuauNodes
