import LuauNodes.Proofs.Workspace.Hearing
import LuauNodes.Proofs.Workspace.RequestAgreement

/-!
# Subscriptions

A place is given to a listener once and for all when it subscribes, so the places of
the subscribed listeners increase in the order of subscription, and a subscription
that has ended never comes back.  Listeners may fail, subscribe others, end
subscriptions and cause further events while an event is published: all this goes on
with the session, and it neither adds to nor takes from those who are told.
-/

namespace LuauNodes.Session

open Act

variable {session start before middle after : Session}

/-! ## Sessions that go on -/

/-- The subscriptions of a session are in the order in which its listeners subscribed, and no place
is used that was not given to a listener. -/
structure Lined (session : Session) : Prop where
  inOrder : session.subscribed.Pairwise (· < ·)
  known : ∀ place ∈ session.subscribed, place < session.listeners.length
  named : ∀ handle place, session.handles.get? handle = some place →
    place < session.listeners.length

/-- A session goes on from another one: every listener keeps its place, and whoever was not
subscribed among the listeners of then is not subscribed now. -/
structure Continues (before after : Session) : Prop where
  lined : after.Lined
  roster : before.listeners.map Listener.profile <+: after.listeners.map Listener.profile
  ended : ∀ place ∈ after.subscribed, place < before.listeners.length →
    place ∈ before.subscribed

theorem Lined.continues (lined : session.Lined) : session.Continues session :=
  ⟨lined, List.prefix_rfl, fun _ member _ => member⟩

theorem Continues.length_le (continues : before.Continues after) :
    before.listeners.length ≤ after.listeners.length := by
  simpa using continues.roster.length_le

theorem Continues.trans
    (first : before.Continues middle)
    (second : middle.Continues after) :
    before.Continues after where
  lined := second.lined
  roster := first.roster.trans second.roster
  ended := fun place member known =>
    first.ended place (second.ended place member (Nat.lt_of_lt_of_le known first.length_le)) known

/-- Of an earlier listener everything but its script is as it was. -/
theorem Continues.exists_listener
    (continues : before.Continues after)
    {place : Nat}
    {listener : Listener}
    (found : before.listeners[place]? = some listener) :
    ∃ now, after.listeners[place]? = some now ∧ now.profile = listener.profile := by
  obtain ⟨known, here⟩ := List.getElem?_eq_some_iff.mp found
  have same := List.prefix_iff_getElem?.mp continues.roster place (by simpa using known)
  rw [List.getElem?_map, List.getElem_map, here] at same
  exact Option.map_eq_some_iff.mp same

theorem Lined.transfer
    (lined : before.Lined)
    (same : before.SameRoster after)
    (fewer : after.subscribed.Sublist before.subscribed) :
    after.Lined := by
  have length : before.listeners.length = after.listeners.length := by
    simpa using congrArg List.length same.listeners
  refine ⟨lined.inOrder.sublist fewer, fun place member => ?_, fun handle place found => ?_⟩
  · exact length ▸ lined.known place (fewer.subset member)
  · exact length ▸ lined.named handle place (same.handles ▸ found)

/-- A session goes on as long as its listeners stay the same and nobody subscribes. -/
theorem Continues.transfer
    (continues : start.Continues before)
    (same : before.SameRoster after)
    (fewer : after.subscribed.Sublist before.subscribed) :
    start.Continues after :=
  continues.trans ⟨continues.lined.transfer same fewer, same.listeners ▸ List.prefix_rfl,
    fun _ member _ => fewer.subset member⟩

/-- What listeners were told does not matter. -/
theorem Continues.retold (continues : start.Continues session) (told : List Notification) :
    start.Continues { session with told := told } :=
  continues.transfer ⟨rfl, rfl⟩ (List.Sublist.refl _)

theorem subscribed_dismiss (session : Session) (handle : String) :
    (session.dismiss handle).subscribed.Sublist session.subscribed := by
  unfold dismiss
  split
  · exact List.Sublist.refl _
  · exact List.filter_sublist

theorem Continues.dismiss (continues : start.Continues session) (handle : String) :
    start.Continues (session.dismiss handle) :=
  continues.transfer (roster_dismiss session handle) (subscribed_dismiss session handle)

theorem length_listeners_subscribe (session : Session) (listener : Listener) :
    (session.subscribe listener).listeners.length = session.listeners.length + 1 :=
  List.length_append

/-- The name of a listener that subscribes stands for its place from then on. -/
theorem get?_handles_subscribe (session : Session) (listener : Listener) (handle : String) :
    (session.subscribe listener).handles.get? handle =
      if listener.handle = handle then some session.listeners.length
      else session.handles.get? handle :=
  OrderedMap.get?_insert _ _ _ _

theorem Lined.subscribe (lined : session.Lined) (listener : Listener) :
    (session.subscribe listener).Lined where
  inOrder := by
    refine List.pairwise_append.mpr ⟨lined.inOrder, List.pairwise_singleton _ _, ?_⟩
    intro place member other new
    rw [List.mem_singleton.mp new]
    exact lined.known place member
  known := by
    intro place member
    rw [length_listeners_subscribe]
    rcases List.mem_append.mp member with old | new
    · exact Nat.lt_succ_of_lt (lined.known place old)
    · exact List.mem_singleton.mp new ▸ Nat.lt_succ_self _
  named := by
    intro handle place found
    rw [get?_handles_subscribe] at found
    rw [length_listeners_subscribe]
    split at found
    · cases found
      exact Nat.lt_succ_self _
    · exact Nat.lt_succ_of_lt (lined.named handle place found)

theorem Lined.continues_subscribe (lined : session.Lined) (listener : Listener) :
    session.Continues (session.subscribe listener) where
  lined := lined.subscribe listener
  roster := by
    show _ <+: List.map Listener.profile (session.listeners ++ [listener])
    rw [List.map_append]
    exact List.prefix_append _ _
  ended := by
    intro place member known
    rcases List.mem_append.mp member with old | new
    · exact old
    · exact absurd known (List.mem_singleton.mp new ▸ Nat.lt_irrefl _)

theorem Continues.enduring (start : Session) : Enduring start.Continues where
  named := fun _ _ _ _ _ continues => continues.transfer ⟨rfl, rfl⟩ (List.Sublist.refl _)
  subscribed := fun _ listener continues =>
    continues.trans (continues.lined.continues_subscribe listener)
  dismissed := fun _ handle continues => continues.dismiss handle

/-! ## Who is told -/

theorem mem_audience (session : Session) (event : Event) (place : Nat) :
    place ∈ session.audience event ↔
      place ∈ session.subscribed ∧ ∃ listener, session.listeners[place]? = some listener ∧
        (listener.document = none ∨ listener.document = some event.document) := by
  unfold audience
  rw [List.mem_filter]
  cases session.listeners[place]? with
  | none => simp
  | some listener => simp

/-- The bus that passes over the listeners at some places whenever an event is published. -/
def publishPast
    (gone : List Nat)
    (run : Request → Act Session Response)
    (event : Event) :
    Act Session Unit := do
  (((← Act.rest).audience event).filter fun place => place ∉ gone).forM (tellListener run event)

/-- Carries out a request on the bus that passes over the listeners at some places. -/
def runPast (gone : List Nat) : Nat → Request → Act Session Response
  | 0, _ => pure .nothing
  | fuel + 1, request =>
    carryOut (publishPast gone (runPast gone fuel))
      (fun steps => steps.mapM (answer (runPast gone fuel))) request

theorem publishPast_nil (run : Request → Act Session Response) :
    publishPast [] run = publish run := by
  funext event
  simp [publishPast, publish]

theorem runPast_nil (fuel : Nat) : runPast [] fuel = run fuel := by
  induction fuel with
  | zero => rfl
  | succ fuel ih =>
      funext request
      rw [runPast, run, publishPast_nil, ih]

/-! ## Publishing under another bus -/

/-- What requests and listeners do to a session leaves it in a sort, in which nobody at some places
is subscribed. -/
structure Unheard (Kept : Session → Prop) (gone : List Nat) : Prop extends Enduring Kept where
  recorded : ∀ session notification, Kept session → Kept (session.record notification)
  exhausted : ∀ session place, Kept session → Kept (session.exhaust place)
  unsubscribed : ∀ session, Kept session → ∀ place ∈ gone, place ∉ session.subscribed

variable {Kept : Session → Prop} {gone : List Nat}

section Publishing

variable {inner other : Request → Act Session Response}

theorem agree_respond
    (runs : ∀ request, Agree Kept (inner request) (other request))
    (listener : Listener) :
    Agree Kept (respond inner listener) (respond other listener) :=
  (Agree.forM fun request => (runs request).discard).bind fun _ =>
    Agree.ite (steady_fail _) (steady_pure ())

theorem Enduring.foldl_dismiss
    (enduring : Enduring Kept)
    (handles : List String)
    (kept : Kept session) :
    Kept (handles.foldl Session.dismiss session) := by
  induction handles generalizing session with
  | nil => exact kept
  | cons handle rest ih => exact ih (enduring.dismissed session handle kept)

theorem Unheard.hearing
    (unheard : Unheard Kept gone)
    (registry : Registry)
    (event : Event)
    (place : Nat)
    (listener : Listener)
    (kept : Kept session) :
    Kept (session.hearing registry event place listener) :=
  unheard.exhausted _ place
    (unheard.foldl_dismiss listener.dismissals (unheard.recorded session _ kept))

theorem Unheard.tellListener
    (unheard : Unheard Kept gone)
    (runs : ∀ request, Agree Kept (inner request) (other request))
    (event : Event)
    (place : Nat) :
    Agree Kept (tellListener inner event place) (tellListener other event place) := by
  refine Agree.tryCatch (fun workspace kept => ?_) fun _ => steady_note _
  cases found : workspace.rest.listeners[place]? with
  | none =>
      rw [outcome_callListener_of_absent inner event found,
        outcome_callListener_of_absent other event found]
      exact ⟨rfl, kept⟩
  | some listener =>
      rw [outcome_callListener_of_found inner event found,
        outcome_callListener_of_found other event found]
      exact agree_respond runs listener _ (unheard.hearing _ event place listener kept)

theorem Unheard.publish
    (unheard : Unheard Kept gone)
    (runs : ∀ request, Agree Kept (inner request) (other request))
    (event : Event) :
    Agree Kept (publish inner event) (publishPast gone other event) := by
  intro workspace kept
  have none_gone : (workspace.rest.audience event).filter (fun place => place ∉ gone) =
      workspace.rest.audience event := by
    refine List.filter_eq_self.mpr fun place told => decide_eq_true fun member => ?_
    exact unheard.unsubscribed _ kept place member ((mem_audience _ _ _).mp told).1
  have agrees : Agree Kept ((workspace.rest.audience event).forM (Session.tellListener inner event))
      ((workspace.rest.audience event).forM (Session.tellListener other event)) :=
    Agree.forM (unheard.tellListener runs event)
  unfold Session.publish publishPast
  rw [outcome_bind, outcome_bind, outcome_rest]
  dsimp only
  rw [none_gone]
  exact agrees workspace kept

/-- In a sort in which nobody at some places is subscribed, the bus that passes over these places
does what the bus does. -/
theorem Unheard.run
    (unheard : Unheard Kept gone)
    (answered : ∀ fuel, (∀ request, Agree Kept (run fuel request) (runPast gone fuel request)) →
      ∀ request, Agree Kept (answer (Session.run fuel) request)
        (answer (runPast gone fuel) request))
    (fuel : Nat) :
    ∀ request, Agree Kept (Session.run fuel request) (runPast gone fuel request) := by
  induction fuel with
  | zero => exact fun _ => steady_pure Response.nothing
  | succ fuel ih =>
      exact unheard.carryOut (unheard.publish ih) fun _ => Agree.mapM (answered fuel ih)

end Publishing

end LuauNodes.Session
