import LuauNodes.Registry.Basic

/-!
# Runs of a registry

What callers ask of a registry, and how requests follow one another.  An
operation changes the registry at once and leaves its events to be told.  While
listeners are told of an event they may ask for further operations, the events
of which are told before the delivery goes on.  A request to clear everything
clears one document after the other.
-/

namespace LuauNodes

/-- What a caller asks of a registry. -/
inductive Operation where
  | declare (space : Namespace) (document : String) (symbol : Symbol)
  | revise (space : Namespace) (document name : String) (scopeId : Option String)
    (fields : Record.Fields)
  | remove (space : Namespace) (document name : String) (scopeId : Option String)
  | clearSymbols (space : Namespace) (document : String)
  | createScope (document : String) (scope : Scope)
  | destroyScope (document scopeId : String)
  | enterScope (document : String) (scopeId : Option String)
  | exitScope (document scopeId : String)
  | clearDocument (document : String)

/-- The registry after a change, and the events that are to be told. -/
def Change.effect {α : Type} (change : Change α) : Registry × List Event :=
  (change.registry, change.events)

/-- What an operation makes of a registry. -/
def Operation.effect (registry : Registry) :
    Operation → Except TreeFault (Registry × List Event)
  | declare space document symbol => .ok (registry.declare space document symbol).effect
  | revise space document name scopeId fields =>
    .ok (registry.revise space document name scopeId fields).effect
  | remove space document name scopeId =>
    .ok (registry.remove space document name scopeId).effect
  | clearSymbols space document => .ok (registry.clearSymbols space document).effect
  | createScope document scope => (registry.createScope document scope).map Change.effect
  | destroyScope document scopeId => .ok (registry.destroyScope document scopeId).effect
  | enterScope document scopeId => .ok (registry.enterScope document scopeId).effect
  | exitScope document scopeId => .ok (registry.exitScope document scopeId).effect
  | clearDocument document => .ok (registry.clearDocument document).effect

/-- Something that is under way or still to be done. -/
inductive Task where
  /-- The listeners of an event are told of it. -/
  | tell (event : Event)
  /-- A document is cleared. -/
  | clear (document : String)

/-- A registry in the course of a run.  The first task is under way, the others wait for it. -/
structure Dispatch where
  registry : Registry
  tasks : List Task

namespace Dispatch

/-- Nothing has happened yet. -/
def start : Dispatch := ⟨∅, []⟩

/-- One step of a run.  Operations may be asked for at any time; those that are asked for while an
event is told come from its listeners. -/
inductive Step : Dispatch → Dispatch → Prop where
  | operate
      {registry after : Registry}
      {events : List Event}
      (operation : Operation)
      (tasks : List Task)
      (accepted : operation.effect registry = .ok (after, events)) :
      Step ⟨registry, tasks⟩ ⟨after, events.map Task.tell ++ tasks⟩
  | clearAll (registry : Registry) (tasks : List Task) :
      Step ⟨registry, tasks⟩ ⟨registry, registry.documents.map Task.clear ++ tasks⟩
  | clear (registry : Registry) (document : String) (tasks : List Task) :
      Step ⟨registry, .clear document :: tasks⟩
        ⟨(registry.clearDocument document).registry,
          (registry.clearDocument document).events.map Task.tell ++ tasks⟩
  | told (registry : Registry) (event : Event) (tasks : List Task) :
      Step ⟨registry, .tell event :: tasks⟩ ⟨registry, tasks⟩

/-- What some run comes to. -/
inductive Reachable : Dispatch → Prop where
  | start : Reachable start
  | step {before after : Dispatch} (reached : Reachable before) (step : Step before after) :
      Reachable after

/-- A run that goes on with an operation; one that fails changes nothing. -/
def ask (dispatch : Dispatch) (operation : Operation) : Dispatch :=
  match operation.effect dispatch.registry with
  | .ok (after, events) => ⟨after, events.map Task.tell ++ dispatch.tasks⟩
  | .error _ => dispatch

/-- The run in which some operations are asked for in turn, each while the events of those before
are still being told. -/
def asking (operations : List Operation) : Dispatch := operations.foldl ask start

theorem Reachable.ask
    {dispatch : Dispatch}
    (reached : dispatch.Reachable)
    (operation : Operation) :
    (dispatch.ask operation).Reachable := by
  unfold Dispatch.ask
  split
  · rename_i accepted
    exact .step reached (.operate operation dispatch.tasks accepted)
  · exact reached

theorem reachable_asking (operations : List Operation) : (asking operations).Reachable := by
  have goesOn : ∀ {dispatch : Dispatch}, dispatch.Reachable →
      (operations.foldl Dispatch.ask dispatch).Reachable := by
    induction operations with
    | nil => exact fun reached => reached
    | cons operation rest ih => exact fun reached => ih (reached.ask operation)
  exact goesOn .start

end Dispatch

/-- A registry that some run comes to, while its listeners are called or between requests. -/
def Registry.Reachable (registry : Registry) : Prop :=
  ∃ tasks, Dispatch.Reachable ⟨registry, tasks⟩

theorem Dispatch.Reachable.registry
    {dispatch : Dispatch}
    (reached : dispatch.Reachable) :
    dispatch.registry.Reachable :=
  ⟨dispatch.tasks, reached⟩

/-- Operations may be asked for at any time. -/
theorem Registry.Reachable.of_effect
    {registry after : Registry}
    {events : List Event}
    (reachable : registry.Reachable)
    (operation : Operation)
    (accepted : operation.effect registry = .ok (after, events)) :
    after.Reachable := by
  obtain ⟨tasks, reached⟩ := reachable
  exact ⟨_, .step reached (.operate operation tasks accepted)⟩

/-- What holds of the empty registry and is kept by every operation holds of every registry that
some run comes to. -/
theorem Dispatch.Reachable.registry_induction
    {Holds : Registry → Prop}
    (start : Holds ∅)
    (kept : ∀ {registry after : Registry} {events : List Event} (operation : Operation),
      Holds registry →
      operation.effect registry = .ok (after, events) →
      Holds after)
    {dispatch : Dispatch}
    (reached : dispatch.Reachable) :
    Holds dispatch.registry := by
  induction reached with
  | start => exact start
  | step _ step ih =>
      cases step with
      | operate operation tasks accepted => exact kept operation ih accepted
      | clearAll registry tasks => exact ih
      | clear registry document tasks => exact kept (.clearDocument document) ih rfl
      | told registry event tasks => exact ih

end LuauNodes
