import LuauNodes.Proofs.Workspace.Subscriptions

/-!
# Publication of events

While an event is published, listeners may make requests, and these may subscribe, end
subscriptions and publish further events.  Whatever they do, the event goes to those
and only those who were to be told when its publication began, to each of them once and
in the order of subscription, and a listener that fails is logged and hinders no other.
-/

namespace LuauNodes.Session

open Act

variable {start session : Session} {gone : List Nat}

/-! ## Requests that listeners may make -/

/-- A way to carry out requests goes on with every session, and takes back nothing of what listeners
were told. -/
structure Orderly (run : Request → Act Session Response) : Prop where
  continues : ∀ request (before : Workspace Session), before.rest.Lined →
    before.rest.Continues ((run request).outcome before).2.rest
  told : ∀ request (before : Workspace Session),
    before.rest.told <+: ((run request).outcome before).2.rest.told

theorem agree_answer
    {Kept : Session → Prop}
    {run other : Request → Act Session Response}
    (retold : ∀ session told, Kept session → Kept { session with told := told })
    (runs : ∀ request, Agree Kept (run request) (other request))
    (request : Request) :
    Agree Kept (answer run request) (answer other request) := by
  refine steady_get.bind fun outer => ?_
  refine Agree.bind (steady_modify fun workspace => retold workspace.rest []) fun _ => ?_
  refine Agree.bind (Agree.tryCatch ((runs request).map Except.ok) fun failure =>
    steady_pure (Except.error failure)) fun ended => steady_get.bind fun after => ?_
  exact Agree.bind (steady_modify fun workspace => retold workspace.rest outer.rest.told)
    fun _ => steady_pure _

/-- To answer a request leaves what was told before to be collected. -/
theorem told_answer
    (run : Request → Act Session Response)
    (request : Request)
    (before : Workspace Session) :
    ((answer run request).outcome before).2.rest.told = before.rest.told := by
  let collecting : Workspace Session :=
    { before with notices := [], rest := { before.rest with told := [] } }
  show ((tryCatch (Except.ok <$> run request) (fun failure => pure (.error failure)) >>= _ :
    Act Session Answer).outcome collecting).2.rest.told = before.rest.told
  rw [outcome_bind, outcome_tryCatch, ← bind_pure_comp, outcome_bind]
  rcases (run request).outcome collecting with ⟨failure | response, after⟩ <;> rfl

/-- Nobody is subscribed at some places of a session whose listeners have ended these
subscriptions, however the session goes on. -/
theorem unheard_continues
    (known : ∀ place ∈ gone, place < start.listeners.length)
    (ended : ∀ place ∈ gone, place ∉ start.subscribed) :
    Unheard start.Continues gone where
  toEnduring := Continues.enduring start
  recorded := fun _ _ continues => continues.retold _
  exhausted := fun session place continues =>
    continues.transfer (roster_exhaust session place) (List.Sublist.refl _)
  unsubscribed := fun _ continues place member subscribed =>
    ended place member (continues.ended place subscribed (known place member))

theorem unheard_nobody (start : Session) : Unheard start.Continues [] :=
  unheard_continues (List.forall_mem_nil _) (List.forall_mem_nil _)

/-- Once some subscriptions have ended, a request comes to what it comes to on the bus that passes
over their listeners in every publication. -/
theorem agree_runPast
    (known : ∀ place ∈ gone, place < start.listeners.length)
    (ended : ∀ place ∈ gone, place ∉ start.subscribed)
    (fuel : Nat) :
    ∀ request, Agree start.Continues (run fuel request) (runPast gone fuel request) :=
  (unheard_continues known ended).run
    (fun _ runs => agree_answer (fun _ told continues => continues.retold told) runs) fuel

/-- Requests that are answered one after the other go on with a session. -/
theorem Lined.goesOn
    {before : Workspace Session}
    (lined : before.rest.Lined)
    (fuel : Nat)
    (requests : List Request) :
    before.rest.Continues ((requests.mapM (answer (run fuel))).outcome before).2.rest :=
  (Agree.mapM (agree_answer (fun _ told continues => continues.retold told)
    (agree_runPast (List.forall_mem_nil _) (List.forall_mem_nil _) fuel))).kept lined.continues

theorem told_dismiss (session : Session) (handle : String) :
    (session.dismiss handle).told = session.told := by
  unfold dismiss
  split <;> rfl

theorem unheard_told (told : List Notification) :
    Unheard (fun session => told <+: session.told) [] where
  named := fun _ _ _ _ _ kept => kept
  subscribed := fun _ _ kept => kept
  dismissed := fun session handle kept => (told_dismiss session handle).symm ▸ kept
  recorded := fun _ _ kept => List.prefix_append_of_prefix kept
  exhausted := fun _ _ kept => kept
  unsubscribed := fun _ _ _ member => absurd member List.not_mem_nil

theorem steady_run_told (told : List Notification) (fuel : Nat) (request : Request) :
    Steady (fun session => told <+: session.told) (run fuel request) := by
  have agrees := (unheard_told told).run (fun fuel _ request => by
    rw [runPast_nil]
    intro before kept
    refine ⟨rfl, ?_⟩
    show told <+: _
    rwa [told_answer]) fuel request
  rwa [runPast_nil] at agrees

/-- The requests of a session are carried out in an orderly way, those of its listeners included. -/
theorem orderly_run (fuel : Nat) : Orderly (run fuel) where
  continues := fun request _ lined =>
    (agree_runPast (List.forall_mem_nil _) (List.forall_mem_nil _) fuel request).kept
      lined.continues
  told := fun request before => (steady_run_told before.rest.told fuel request).kept List.prefix_rfl

/-! ## Subscriptions that last -/

/-- The listener at a place is subscribed, and no handle stands for the place any more. -/
structure Lasting (place : Nat) (session : Session) : Prop where
  subscribed : place ∈ session.subscribed
  known : place < session.listeners.length
  unnamed : ∀ handle, session.handles.get? handle ≠ some place

theorem Lasting.subscribe {place : Nat} (kept : session.Lasting place) (listener : Listener) :
    (session.subscribe listener).Lasting place where
  subscribed := List.mem_append_left _ kept.subscribed
  known := by
    rw [length_listeners_subscribe]
    exact Nat.lt_succ_of_lt kept.known
  unnamed := by
    intro handle named
    rw [get?_handles_subscribe] at named
    split at named
    · cases named
      exact Nat.lt_irrefl _ kept.known
    · exact kept.unnamed handle named

theorem Lasting.dismiss {place : Nat} (kept : session.Lasting place) (handle : String) :
    (session.dismiss handle).Lasting place := by
  unfold Session.dismiss
  split
  · exact kept
  · rename_i other found
    have apart : place ≠ other := fun same => kept.unnamed handle (same ▸ found)
    exact ⟨List.mem_filter.mpr ⟨kept.subscribed, bne_iff_ne.mpr apart⟩, kept.known, kept.unnamed⟩

/-- Nothing but its handle ends a subscription. -/
theorem unheard_lasting (place : Nat) : Unheard (Lasting place) [] where
  named := fun _ _ _ _ _ kept => ⟨kept.subscribed, kept.known, kept.unnamed⟩
  subscribed := fun _ listener kept => kept.subscribe listener
  dismissed := fun _ handle kept => kept.dismiss handle
  recorded := fun _ _ kept => ⟨kept.subscribed, kept.known, kept.unnamed⟩
  exhausted := fun _ _ kept =>
    ⟨kept.subscribed, by rw [exhaust, List.length_modify]; exact kept.known, kept.unnamed⟩
  unsubscribed := fun _ _ _ member => absurd member List.not_mem_nil

theorem Lasting.run
    {place : Nat}
    {before : Workspace Session}
    (kept : before.rest.Lasting place)
    (fuel : Nat)
    (request : Request) :
    ((run fuel request).outcome before).2.rest.Lasting place :=
  ((unheard_lasting place).run (fun _ runs => agree_answer
    (fun _ _ kept => ⟨kept.subscribed, kept.known, kept.unnamed⟩) runs) fuel request).kept kept

/-! ## Calling listeners -/

/-- A listener is called: it is there at its place, what it is told first is the event, and what it
does ends, or fails and is logged. -/
structure Called
    (run : Request → Act Session Response)
    (event : Event)
    (place : Nat)
    (listener : Listener)
    (before after : Workspace Session) :
    Prop where
  present : ∃ now, before.rest.listeners[place]? = some now ∧ now.profile = listener.profile
  told : before.rest.told ++ [⟨listener.handle, event, before.registry.sizes event.document⟩] <+:
    after.rest.told
  ended : (callListener run event place).outcome before = (.ok (), after) ∨
    ∃ failure left, (callListener run event place).outcome before = (.error failure, left) ∧
      after = { left with notices := left.notices ++ [.listenerFailed event] }

/-- The listeners that were at some places at the opening are called one after the other. -/
inductive CalledInTurn
    (run : Request → Act Session Response)
    (event : Event)
    (opening : Session) :
    List Nat → Workspace Session → Workspace Session → Prop where
  | all (workspace : Workspace Session) : CalledInTurn run event opening [] workspace workspace
  | next
      {place : Nat}
      {listener : Listener}
      {rest : List Nat}
      {before middle after : Workspace Session}
      (found : opening.listeners[place]? = some listener)
      (first : Called run event place listener before middle)
      (later : CalledInTurn run event opening rest middle after) :
      CalledInTurn run event opening (place :: rest) before after

variable {run : Request → Act Session Response} {before : Workspace Session} {opening : Session}

theorem Orderly.steady_continues (orderly : Orderly run) (start : Session) (request : Request) :
    Steady start.Continues (run request) :=
  fun before continues =>
    ⟨rfl, continues.trans (orderly.continues request before continues.lined)⟩

theorem Orderly.steady_told
    (orderly : Orderly run)
    (told : List Notification)
    (request : Request) :
    Steady (fun session => told <+: session.told) (run request) :=
  fun before kept => ⟨rfl, kept.trans (orderly.told request before)⟩

theorem told_foldl_dismiss (handles : List String) (session : Session) :
    (handles.foldl dismiss session).told = session.told := by
  induction handles generalizing session with
  | nil => rfl
  | cons handle rest ih => exact (ih _).trans (told_dismiss session handle)

theorem told_hearing
    (session : Session)
    (registry : Registry)
    (event : Event)
    (place : Nat)
    (listener : Listener) :
    (session.hearing registry event place listener).told =
      session.told ++ [⟨listener.handle, event, registry.sizes event.document⟩] :=
  told_foldl_dismiss listener.dismissals _

/-- What a listener is told first is the event, whatever it does then. -/
theorem Orderly.told_callListener
    (orderly : Orderly run)
    (event : Event)
    {place : Nat}
    {listener : Listener}
    (found : before.rest.listeners[place]? = some listener) :
    before.rest.told ++ [⟨listener.handle, event, before.registry.sizes event.document⟩] <+:
      ((callListener run event place).outcome before).2.rest.told := by
  rw [outcome_callListener_of_found run event found, ← told_hearing]
  exact (agree_respond (orderly.steady_told _) listener).kept List.prefix_rfl

/-- Whoever was there at the opening is called, whatever was done since. -/
theorem Orderly.ensures_tellListener
    (orderly : Orderly run)
    (event : Event)
    {place : Nat}
    {listener : Listener}
    (continues : opening.Continues before.rest)
    (found : opening.listeners[place]? = some listener) :
    (tellListener run event place).Ensures before fun _ after =>
      Called run event place listener before after ∧ opening.Continues after.rest := by
  obtain ⟨now, present, profile⟩ := continues.exists_listener found
  have told := orderly.told_callListener event present
  rw [Listener.handle_of_profile profile] at told
  have goesOn := ((unheard_nobody opening).tellListener (orderly.steady_continues opening) event
    place).kept continues
  unfold tellListener at goesOn ⊢
  unfold Ensures
  rw [outcome_tryCatch] at goesOn ⊢
  rcases ended : (callListener run event place).outcome before with ⟨failure | _, after⟩
  · rw [ended] at told goesOn
    exact ⟨(), _, rfl, ⟨⟨now, present, profile⟩, told, .inr ⟨failure, after, ended, rfl⟩⟩, goesOn⟩
  · rw [ended] at told goesOn
    exact ⟨(), after, rfl, ⟨⟨now, present, profile⟩, told, .inl ended⟩, goesOn⟩

theorem Orderly.ensures_tellEach
    (orderly : Orderly run)
    (event : Event)
    {places : List Nat}
    (continues : opening.Continues before.rest)
    (known : ∀ place ∈ places, place < opening.listeners.length) :
    (places.forM (tellListener run event)).Ensures before fun _ after =>
      CalledInTurn run event opening places before after ∧ opening.Continues after.rest := by
  induction places generalizing before with
  | nil => exact (ensures_pure () _).mpr ⟨.all before, continues⟩
  | cons place rest ih =>
      rw [List.forall_mem_cons] at known
      have found := List.getElem?_eq_getElem known.1
      obtain ⟨_, middle, ended, called, goesOn⟩ :=
        orderly.ensures_tellListener event continues found
      show ((tellListener run event place >>= fun _ => rest.forM (tellListener run event)) :
        Act Session Unit).Ensures before _
      rw [ensures_bind]
      refine ⟨_, middle, ended, (ih goesOn known.2).mono ?_⟩
      rintro _ after ⟨later, goesOnStill⟩
      exact ⟨.next found called later, goesOnStill⟩

/-! ## Publications and subscriptions -/

/-- An event is published: those who were to be told when the publication began are called in turn,
and the publication ends without failing. -/
structure Published
    (run : Request → Act Session Response)
    (event : Event)
    (before after : Workspace Session) :
    Prop where
  ended : (publish run event).outcome before = (.ok (), after)
  called : CalledInTurn run event before.rest (before.rest.audience event) before after
  continues : before.rest.Continues after.rest

/-- Those who are to be told of an event are the subscribed listeners of its document and of all
documents, each of them once and in the order of subscription. -/
structure Addressed (session : Session) (event : Event) : Prop where
  mem_iff : ∀ place, place ∈ session.audience event ↔
    place ∈ session.subscribed ∧ ∃ listener, session.listeners[place]? = some listener ∧
      (listener.document = none ∨ listener.document = some event.document)
  inOrder : (session.audience event).Sublist session.subscribed
  once : (session.audience event).Pairwise (· < ·)

/-- A listener that subscribes comes last, at a place that nobody had and that its handle stands
for, and it keeps this place. -/
structure Subscribes (session : Session) (listener : Listener) : Prop where
  fresh : session.listeners.length ∉ session.subscribed
  last : (session.subscribe listener).subscribed =
    session.subscribed ++ [session.listeners.length]
  handle : (session.subscribe listener).handles.get? listener.handle =
    some session.listeners.length
  continues : session.Continues (session.subscribe listener)
  lasting : ∀ later, (session.subscribe listener).Continues later →
    ∃ now, later.listeners[session.listeners.length]? = some now ∧ now.profile = listener.profile

/-- A handle that stands for a place ends the subscription at this place and no other.  To use it
again changes nothing, and the listener is told of no event whose publication begins later, those
that are published on the way included: the bus does what the bus does that passes over the listener
in every publication. -/
structure Unsubscribes (session : Session) (handle : String) (place : Nat) : Prop where
  own : session.dismiss handle =
    { session with subscribed := session.subscribed.filter fun other => other != place }
  continues : session.Continues (session.dismiss handle)
  again : ∀ later, (session.dismiss handle).Continues later →
    later.handles.get? handle = some place → later.dismiss handle = later
  unheard : ∀ later : Workspace Session, (session.dismiss handle).Continues later.rest →
    (∀ event, place ∉ later.rest.audience event) ∧
      ∀ fuel,
        (∀ event, (publish (Session.run fuel) event).outcome later =
          (publishPast [place] (runPast [place] fuel) event).outcome later) ∧
        ∀ request, (Session.run fuel request).outcome later =
          (runPast [place] fuel request).outcome later

theorem Lined.addressed (lined : session.Lined) (event : Event) : session.Addressed event where
  mem_iff := mem_audience session event
  inOrder := List.filter_sublist
  once := lined.inOrder.sublist List.filter_sublist

theorem Orderly.exists_published
    (orderly : Orderly run)
    (lined : before.rest.Lined)
    (event : Event) :
    ∃ after, Published run event before after := by
  have known : ∀ place ∈ before.rest.audience event, place < before.rest.listeners.length :=
    fun place told => lined.known place ((mem_audience _ _ _).mp told).1
  have published : (publish run event).Ensures before fun _ after =>
      CalledInTurn run event before.rest (before.rest.audience event) before after ∧
        before.rest.Continues after.rest := by
    unfold publish
    rw [ensures_bind, ensures_rest]
    exact orderly.ensures_tellEach event lined.continues known
  obtain ⟨_, after, ended, called, continues⟩ := published
  exact ⟨after, ended, called, continues⟩

theorem Lined.subscribes (lined : session.Lined) (listener : Listener) :
    session.Subscribes listener where
  fresh := fun member => Nat.lt_irrefl _ (lined.known _ member)
  last := rfl
  handle := by rw [get?_handles_subscribe, if_pos rfl]
  continues := lined.continues_subscribe listener
  lasting := fun _ continues => continues.exists_listener (List.getElem?_concat_length ..)

theorem Lined.unsubscribes
    (lined : session.Lined)
    {handle : String}
    {place : Nat}
    (standsFor : session.handles.get? handle = some place) :
    session.Unsubscribes handle place := by
  have own : session.dismiss handle =
      { session with subscribed := session.subscribed.filter fun other => other != place } := by
    rw [dismiss, standsFor]
  have known : ∀ other ∈ [place], other < (session.dismiss handle).listeners.length := by
    rw [own, List.forall_mem_singleton]
    exact lined.named handle place standsFor
  have ended : ∀ other ∈ [place], other ∉ (session.dismiss handle).subscribed := by
    rw [own, List.forall_mem_singleton]
    simp
  have unheard := unheard_continues known ended
  have gone : ∀ later, (session.dismiss handle).Continues later → place ∉ later.subscribed :=
    fun later continues => unheard.unsubscribed later continues place List.mem_cons_self
  refine ⟨own, lined.continues.dismiss handle, ?again, ?unheard⟩
  case again =>
    intro later continues still
    have others : (later.subscribed.filter fun other => other != place) = later.subscribed :=
      List.filter_eq_self.mpr fun other member =>
        bne_iff_ne.mpr fun same => gone later continues (same ▸ member)
    rw [dismiss, still]
    dsimp only
    rw [others]
  case unheard =>
    intro later continues
    have requests := agree_runPast known ended
    refine ⟨fun event told => ?_, fun fuel => ⟨fun event => ?_, fun request => ?_⟩⟩
    · exact gone later.rest continues ((mem_audience _ _ _).mp told).1
    · exact (unheard.publish (requests fuel) event).outcome continues
    · exact (requests fuel request).outcome continues

end Session

/-- What events and subscriptions come to from a workspace on, whatever its listeners do when they
are told. -/
structure Workspace.Delivers (workspace : Workspace Session) : Prop where
  addressed : ∀ event, workspace.rest.Addressed event
  published : ∀ run event, Session.Orderly run →
    ∃ after, Session.Published run event workspace after
  orderly : ∀ fuel, Session.Orderly (Session.run fuel)
  /-- Requests that are answered one after the other go on with the session. -/
  goesOn : ∀ fuel (requests : List Request), workspace.rest.Continues
    ((requests.mapM (Session.answer (Session.run fuel))).outcome workspace).2.rest
  subscribes : ∀ listener, workspace.rest.Subscribes listener
  unsubscribes : ∀ handle place, workspace.rest.handles.get? handle = some place →
    workspace.rest.Unsubscribes handle place
  /-- A subscription that no handle stands for lasts. -/
  lasts : ∀ place ∈ workspace.rest.subscribed,
    (∀ handle, workspace.rest.handles.get? handle ≠ some place) →
      ∀ fuel request, place ∈ ((Session.run fuel request).outcome workspace).2.rest.subscribed

/-- Whatever listeners do when they are told of an event, the bus calls those who were subscribed
when the publication began, and a handle ends its own subscription for good. -/
theorem Session.Lined.delivers
    {workspace : Workspace Session}
    (lined : workspace.rest.Lined) :
    workspace.Delivers where
  addressed := lined.addressed
  published := fun _ event orderly => orderly.exists_published lined event
  orderly := Session.orderly_run
  goesOn := lined.goesOn
  subscribes := lined.subscribes
  unsubscribes := fun _ _ standsFor => lined.unsubscribes standsFor
  lasts := fun place subscribed unnamed =>
    have lasting := ⟨subscribed, lined.known place subscribed, unnamed⟩
    fun fuel request => (Session.Lasting.run lasting fuel request).subscribed

/-- A session whose first listener, told of an event, ends its own subscription and the next one,
causes a further event, has another listener subscribe, and fails. -/
def Session.unruly : Session :=
  let first := ⟨"first", none, true, ["second", "first"],
    [.clearDocument "main", .subscribe "late" none false [] []]⟩
  let second := ⟨"second", some "main", false, [], []⟩
  let third := ⟨"third", none, false, [], [.unsubscribe "second"]⟩
  ((Session.fresh.subscribe first).subscribe second).subscribe third

theorem Session.lined_fresh : Session.fresh.Lined where
  inOrder := List.Pairwise.nil
  known := List.forall_mem_nil _
  named := fun _ _ found => nomatch found

/-- All three listeners of an unruly session are to be told, and they are. -/
theorem Session.Lined.delivers_unruly :
    Session.unruly.Lined ∧
      Session.unruly.audience ⟨"main", .scopesChanged, none, none⟩ = [0, 1, 2] ∧
        (Workspace.fresh Session.unruly).Delivers := by
  have lined : (Workspace.fresh Session.unruly).rest.Lined :=
    ((Session.lined_fresh.subscribe _).subscribe _).subscribe _
  exact ⟨lined, by decide, Session.Lined.delivers lined⟩

-- The listener whose subscription ended is told of the event, though not of the one in between.
example :
    ((Session.publish (Session.run 2) ⟨"main", .scopesChanged, none, none⟩).outcome
      (Workspace.fresh Session.unruly)).2.rest.told.map Notification.listener =
        ["first", "third", "second", "third"] := by
  decide

end LuauNodes
