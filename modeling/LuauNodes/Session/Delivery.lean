import LuauNodes.Session.Basic

/-!
# Delivery of events

Listeners are told of an event one after the other, in the order in which they
subscribed.  Who is told is settled when the event is published: a listener that
subscribes or leaves meanwhile changes nothing.
-/

namespace LuauNodes.Session

/-- Tells one listener of an event. -/
def callListener
    (run : Request → Act Session Response)
    (event : Event)
    (place : Nat) :
    Act Session Unit := do
  let some listener := (← Act.rest).listeners[place]? | return
  let sizes := (← Act.registry).sizes event.document
  Act.modifyRest fun session => session.record ⟨listener.handle, event, sizes⟩
  Act.modifyRest fun session => listener.dismissals.foldl dismiss session
  Act.modifyRest fun session => session.exhaust place
  listener.script.forM fun request => discard (run request)
  if listener.fails then Act.fail .requested

/-- Tells one listener of an event; a failure of the listener is logged. -/
def tellListener
    (run : Request → Act Session Response)
    (event : Event)
    (place : Nat) :
    Act Session Unit :=
  tryCatch (callListener run event place) fun _ => Act.note [.listenerFailed event]

/-- Tells every listener that is subscribed now of an event. -/
def publish (run : Request → Act Session Response) (event : Event) : Act Session Unit := do
  ((← Act.rest).audience event).forM (tellListener run event)

end LuauNodes.Session
