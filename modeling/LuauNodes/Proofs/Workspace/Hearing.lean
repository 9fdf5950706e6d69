import LuauNodes.Proofs.Registry.Locality
import LuauNodes.Proofs.Workspace.Delivery
import LuauNodes.Session.Run

/-!
# What the listeners of a document hear

A listener of one document is told of nothing but that document, in the order of
its events.  Telling listeners that do not write is a function on sessions, so
two sessions in which the listeners of a document heard the same can be followed
side by side: events of the document are heard in both, events of another
document in neither.
-/

namespace LuauNodes

/-- A request that looks at the registry and changes nothing. -/
def Request.looks : Request → Bool
  | .ask _ _ | .dump _ => true
  | _ => false

/-- What a listener is, apart from the requests that it has yet to make. -/
def Listener.profile (listener : Listener) : Listener := { listener with script := [] }

namespace Listener

variable {listener other : Listener}

theorem handle_of_profile (same : listener.profile = other.profile) :
    listener.handle = other.handle := by
  show listener.profile.handle = other.profile.handle
  rw [same]

theorem document_of_profile (same : listener.profile = other.profile) :
    listener.document = other.document := by
  show listener.profile.document = other.profile.document
  rw [same]

theorem dismissals_of_profile (same : listener.profile = other.profile) :
    listener.dismissals = other.dismissals := by
  show listener.profile.dismissals = other.profile.dismissals
  rw [same]

end Listener

namespace Session

open Act

variable {session left middle right : Session} {document : String}

/-! ## Telling as a function on sessions -/

/-- The requests of a session's listeners look at the registry and change nothing. -/
def Watchful (session : Session) : Prop :=
  ∀ listener ∈ session.listeners, ∀ request ∈ listener.script, request.looks = true

/-- What a session keeps once one listener was told of an event. -/
def hear (registry : Registry) (event : Event) (session : Session) (place : Nat) : Session :=
  match session.listeners[place]? with
  | some listener => session.hearing registry event place listener
  | none => session

/-- What a session keeps once an event was published. -/
def published (registry : Registry) (session : Session) (event : Event) : Session :=
  (session.audience event).foldl (hear registry event) session

/-- What a session keeps once the events of a change were published. -/
def informed (registry : Registry) (events : List Event) (session : Session) : Session :=
  events.foldl (published registry) session

/-- A way to carry out requests leaves everything as it is for requests that only look. -/
def Harmless (inner : Request → Act Session Response) : Prop :=
  ∀ request, request.looks = true → ∀ before, ((inner request).outcome before).2 = before

theorem harmless_run (fuel : Nat) : Harmless (run fuel) := by
  intro request looks before
  cases fuel with
  | zero => rfl
  | succ fuel =>
      have asked : (registry : Act Session Registry).outcome before =
          (.ok before.registry, before) := rfl
      cases request with
      | ask document question =>
          show ((registry >>= fun registry => _ : Act Session Response).outcome before).2 = before
          rw [outcome_bind, asked]
          dsimp only
          cases before.registry.reply document question <;> rfl
      | dump document => rfl
      | _ => cases looks

theorem outcome_forM_of_harmless
    {inner : Request → Act Session Response}
    (harmless : Harmless inner)
    {script : List Request}
    (looks : ∀ request ∈ script, request.looks = true)
    (before : Workspace Session) :
    ((script.forM fun request => discard (inner request)).outcome before).2 = before := by
  induction script with
  | nil => rfl
  | cons request rest ih =>
      rw [List.forall_mem_cons] at looks
      have first := harmless request looks.1 before
      show ((((fun _ => ()) <$> inner request) >>= fun _ => rest.forM _ :
        Act Session Unit).outcome before).2 = before
      rw [outcome_bind, ← bind_pure_comp, outcome_bind]
      rcases ended : (inner request).outcome before with ⟨failure | response, after⟩
      · rw [ended] at first
        exact first
      · rw [ended] at first
        rw [show after = before from first]
        exact ih looks.2

theorem outcome_callListener_of_harmless
    {inner : Request → Act Session Response}
    (harmless : Harmless inner)
    (event : Event)
    {place : Nat}
    {before : Workspace Session}
    {listener : Listener}
    (found : before.rest.listeners[place]? = some listener)
    (looks : ∀ request ∈ listener.script, request.looks = true) :
    ((callListener inner event place).outcome before).2 =
      { before with rest := before.rest.hearing before.registry event place listener } := by
  rw [outcome_callListener_of_found inner event found, respond]
  let after : Workspace Session :=
    { before with rest := before.rest.hearing before.registry event place listener }
  show (Act.outcome _ after).2 = after
  have unchanged := outcome_forM_of_harmless harmless looks after
  rw [outcome_bind]
  rcases ended : (listener.script.forM fun request => discard (inner request) :
    Act Session Unit).outcome after with ⟨failure | _, later⟩
  · rw [ended] at unchanged
    exact unchanged
  · rw [ended] at unchanged
    rw [show later = after from unchanged]
    cases listener.fails <;> rfl

theorem ensures_tellListener
    {inner : Request → Act Session Response}
    (harmless : Harmless inner)
    (event : Event)
    (place : Nat)
    {before : Workspace Session}
    (watchful : before.rest.Watchful) :
    (tellListener inner event place).Ensures before fun _ after =>
      before.SameHoldings after ∧ after.rest = hear before.registry event before.rest place := by
  unfold Ensures tellListener
  rw [outcome_tryCatch]
  cases found : before.rest.listeners[place]? with
  | none =>
      rw [outcome_callListener_of_absent inner event found, hear, found]
      exact ⟨(), before, rfl, .refl before, rfl⟩
  | some listener =>
      have called := outcome_callListener_of_harmless harmless event found
        (watchful listener (List.mem_of_getElem? found))
      rw [hear, found]
      rcases ended : (callListener inner event place).outcome before with ⟨failure | _, after⟩
      · rw [ended] at called
        cases called
        exact ⟨(), _, rfl, ⟨rfl, rfl, rfl, rfl⟩, rfl⟩
      · rw [ended] at called
        cases called
        exact ⟨(), _, rfl, ⟨rfl, rfl, rfl, rfl⟩, rfl⟩

/-! ## Listeners that stay the same -/

/-- Two sessions have the same listeners under the same names, apart from what these have yet to
ask. -/
structure SameRoster (left right : Session) : Prop where
  listeners : left.listeners.map Listener.profile = right.listeners.map Listener.profile
  handles : left.handles = right.handles

theorem SameRoster.refl (session : Session) : session.SameRoster session := ⟨rfl, rfl⟩

theorem SameRoster.symm (same : left.SameRoster right) : right.SameRoster left :=
  ⟨same.listeners.symm, same.handles.symm⟩

theorem SameRoster.trans
    (first : left.SameRoster middle)
    (second : middle.SameRoster right) :
    left.SameRoster right :=
  ⟨first.listeners.trans second.listeners, first.handles.trans second.handles⟩

theorem SameRoster.profile
    (same : left.SameRoster right)
    (place : Nat) :
    left.listeners[place]?.map Listener.profile = right.listeners[place]?.map Listener.profile := by
  rw [← List.getElem?_map, ← List.getElem?_map, same.listeners]

theorem roster_dismiss (session : Session) (handle : String) :
    session.SameRoster (session.dismiss handle) := by
  unfold dismiss
  split
  · exact .refl session
  · exact ⟨rfl, rfl⟩

theorem roster_foldl_dismiss (handles : List String) (session : Session) :
    session.SameRoster (handles.foldl dismiss session) := by
  induction handles generalizing session with
  | nil => exact .refl session
  | cons handle rest ih => exact (roster_dismiss session handle).trans (ih _)

theorem roster_exhaust (session : Session) (place : Nat) :
    session.SameRoster (session.exhaust place) := by
  refine ⟨List.ext_getElem? fun index => ?_, rfl⟩
  show _ = (List.map Listener.profile (session.listeners.modify place _))[index]?
  rw [List.getElem?_map, List.getElem?_map, List.getElem?_modify]
  cases session.listeners[index]? with
  | none => rfl
  | some listener =>
      show some listener.profile = some (Listener.profile (if place = index then _ else _))
      split <;> rfl

theorem roster_hear
    (registry : Registry)
    (event : Event)
    (session : Session)
    (place : Nat) :
    session.SameRoster (hear registry event session place) := by
  unfold hear
  split
  · rename_i listener found
    let recorded := session.record ⟨listener.handle, event, registry.sizes event.document⟩
    have started : session.SameRoster recorded := ⟨rfl, rfl⟩
    exact (started.trans (roster_foldl_dismiss listener.dismissals recorded)).trans
      (roster_exhaust _ place)
  · exact .refl session

theorem roster_foldl_hear
    (registry : Registry)
    (event : Event)
    (places : List Nat)
    (session : Session) :
    session.SameRoster (places.foldl (hear registry event) session) := by
  induction places generalizing session with
  | nil => exact .refl session
  | cons place rest ih => exact (roster_hear registry event session place).trans (ih _)

theorem roster_informed
    (registry : Registry)
    (events : List Event)
    (session : Session) :
    session.SameRoster (session.informed registry events) := by
  induction events generalizing session with
  | nil => exact .refl session
  | cons event rest ih => exact (roster_foldl_hear registry event _ session).trans (ih _)

theorem Watchful.exhaust
    (watchful : session.Watchful)
    (place : Nat) :
    (session.exhaust place).Watchful := by
  intro heard member request asked
  obtain ⟨index, heardAt⟩ := List.mem_iff_getElem?.mp member
  rw [Session.exhaust, List.getElem?_modify] at heardAt
  obtain ⟨former, formerAt, rfl⟩ := Option.map_eq_some_iff.mp heardAt
  by_cases here : place = index
  · rw [if_pos here] at asked
    cases asked
  · rw [if_neg here] at asked
    exact watchful former (List.mem_of_getElem? formerAt) request asked

theorem Watchful.hear
    (watchful : session.Watchful)
    (registry : Registry)
    (event : Event)
    (place : Nat) :
    (hear registry event session place).Watchful := by
  unfold Session.hear
  split
  · rename_i listener found
    let recorded := session.record ⟨listener.handle, event, registry.sizes event.document⟩
    have dismissed : (listener.dismissals.foldl dismiss recorded).Watchful := by
      intro other member
      rw [listeners_foldl_dismiss] at member
      exact watchful other member
    exact dismissed.exhaust place
  · exact watchful

theorem Watchful.foldl_hear
    (watchful : session.Watchful)
    (registry : Registry)
    (event : Event)
    (places : List Nat) :
    (places.foldl (Session.hear registry event) session).Watchful := by
  induction places generalizing session with
  | nil => exact watchful
  | cons place rest ih => exact ih (watchful.hear registry event place)

theorem Watchful.published
    (watchful : session.Watchful)
    (registry : Registry)
    (event : Event) :
    (session.published registry event).Watchful :=
  watchful.foldl_hear registry event _

theorem Watchful.informed
    (watchful : session.Watchful)
    (registry : Registry)
    (events : List Event) :
    (session.informed registry events).Watchful := by
  induction events generalizing session with
  | nil => exact watchful
  | cons event rest ih => exact ih (watchful.published registry event)

theorem ensures_tellEach
    {inner : Request → Act Session Response}
    (harmless : Harmless inner)
    (event : Event)
    (places : List Nat)
    {before : Workspace Session}
    (watchful : before.rest.Watchful) :
    (places.forM (tellListener inner event)).Ensures before fun _ after =>
      before.SameHoldings after ∧
        after.rest = places.foldl (hear before.registry event) before.rest := by
  induction places generalizing before with
  | nil => exact (ensures_pure () _).mpr ⟨.refl before, rfl⟩
  | cons place rest ih =>
      show ((tellListener inner event place >>= fun _ => rest.forM (tellListener inner event)) :
        Act Session Unit).Ensures before _
      rw [ensures_bind]
      refine (ensures_tellListener harmless event place watchful).mono ?_
      rintro _ middle ⟨same, heard⟩
      have watchfulStill : middle.rest.Watchful := heard ▸ watchful.hear before.registry event place
      refine (ih watchfulStill).mono ?_
      rintro _ after ⟨sameStill, heardStill⟩
      rw [same.registry, heard] at heardStill
      exact ⟨same.trans sameStill, heardStill⟩

/-- Publishing some events ends, and leaves of the session what hearing of them leaves. -/
theorem ensures_publishEach
    {inner : Request → Act Session Response}
    (harmless : Harmless inner)
    (events : List Event)
    {before : Workspace Session}
    (watchful : before.rest.Watchful) :
    (events.forM (publish inner)).Ensures before fun _ after =>
      before.SameHoldings after ∧ after.rest = before.rest.informed before.registry events := by
  induction events generalizing before with
  | nil => exact (ensures_pure () _).mpr ⟨.refl before, rfl⟩
  | cons event rest ih =>
      show ((publish inner event >>= fun _ => rest.forM (publish inner)) :
        Act Session Unit).Ensures before _
      unfold publish
      simp only [ensures_bind, ensures_rest]
      refine (ensures_tellEach harmless event _ watchful).mono ?_
      rintro _ middle ⟨same, heard⟩
      have watchfulStill : middle.rest.Watchful := heard ▸ watchful.published before.registry event
      refine (ih watchfulStill).mono ?_
      rintro _ after ⟨sameStill, heardStill⟩
      rw [same.registry, heard] at heardStill
      exact ⟨same.trans sameStill, heardStill⟩

/-! ## Listeners of one document -/

/-- The listener at a place is told of one document alone. -/
def attends (session : Session) (document : String) (place : Nat) : Bool :=
  session.listeners[place]?.any fun listener => listener.document == some document

/-- A name is that of a listener that is told of one document alone. -/
def names (session : Session) (document : String) (handle : String) : Bool :=
  session.listeners.any fun listener =>
    listener.handle == handle && listener.document == some document

/-- Listeners do not write, those of one document are told apart from the others by their names, and
no other listener ends their subscriptions. -/
structure Secluded (session : Session) (document : String) : Prop where
  watchful : session.Watchful
  named : ∀ listener ∈ session.listeners, ∀ other ∈ session.listeners,
    listener.handle = other.handle → listener.document = other.document
  undismissed : ∀ listener ∈ session.listeners, listener.document ≠ some document →
    ∀ handle ∈ listener.dismissals, ∀ place, session.handles.get? handle = some place →
      session.attends document place = false

/-- The listeners of a document are the same in two sessions, are subscribed to the same, and heard
the same. -/
structure HearAlike (document : String) (left right : Session) : Prop where
  secluded : left.Secluded document
  secludedToo : right.Secluded document
  roster : left.SameRoster right
  subscribed : left.subscribed.filter (left.attends document) =
    right.subscribed.filter (right.attends document)
  told : (left.told.filter fun notification => left.names document notification.listener) =
    right.told.filter fun notification => right.names document notification.listener

theorem SameRoster.attends
    (same : left.SameRoster right) :
    left.attends document = right.attends document := by
  funext place
  have profile := same.profile place
  unfold Session.attends
  cases found : left.listeners[place]? with
  | none =>
      rw [found] at profile
      rw [Option.map_eq_none_iff.mp profile.symm]
  | some listener =>
      rw [found] at profile
      obtain ⟨other, otherAt, same⟩ := Option.map_eq_some_iff.mp profile.symm
      rw [otherAt, Option.any_some, Option.any_some, Listener.document_of_profile same]

theorem names_eq_any_profile (session : Session) (document handle : String) :
    session.names document handle =
      (session.listeners.map Listener.profile).any fun listener =>
        listener.handle == handle && listener.document == some document := by
  rw [List.any_map]
  rfl

theorem SameRoster.names
    (same : left.SameRoster right) :
    left.names document = right.names document := by
  funext handle
  rw [names_eq_any_profile, names_eq_any_profile, same.listeners]

theorem SameRoster.exists_mem
    (same : left.SameRoster right)
    {listener : Listener}
    (member : listener ∈ right.listeners) :
    ∃ other ∈ left.listeners, other.profile = listener.profile := by
  have profile : listener.profile ∈ left.listeners.map Listener.profile := by
    rw [same.listeners]
    exact List.mem_map_of_mem member
  exact List.mem_map.mp profile

theorem Secluded.transfer
    (secluded : left.Secluded document)
    (same : left.SameRoster right)
    (watchful : right.Watchful) :
    right.Secluded document where
  watchful := watchful
  named := by
    intro listener member other otherMember handle
    obtain ⟨former, formerMember, profile⟩ := same.exists_mem member
    obtain ⟨formerOther, formerOtherMember, otherProfile⟩ := same.exists_mem otherMember
    have handles : former.handle = formerOther.handle :=
      (Listener.handle_of_profile profile).trans
        (handle.trans (Listener.handle_of_profile otherProfile).symm)
    have documents := secluded.named former formerMember formerOther formerOtherMember handles
    exact (Listener.document_of_profile profile).symm.trans
      (documents.trans (Listener.document_of_profile otherProfile))
  undismissed := by
    intro listener member elsewhere handle dismissed place found
    obtain ⟨former, formerMember, profile⟩ := same.exists_mem member
    rw [← Listener.document_of_profile profile] at elsewhere
    rw [← Listener.dismissals_of_profile profile] at dismissed
    rw [← same.handles] at found
    rw [← same.attends]
    exact secluded.undismissed former formerMember elsewhere handle dismissed place found

theorem HearAlike.refl (secluded : session.Secluded document) :
    HearAlike document session session :=
  ⟨secluded, secluded, .refl session, rfl, rfl⟩

theorem HearAlike.symm (alike : HearAlike document left right) : HearAlike document right left :=
  ⟨alike.secludedToo, alike.secluded, alike.roster.symm, alike.subscribed.symm, alike.told.symm⟩

theorem HearAlike.trans
    (first : HearAlike document left middle)
    (second : HearAlike document middle right) :
    HearAlike document left right :=
  ⟨first.secluded, second.secludedToo, first.roster.trans second.roster,
    first.subscribed.trans second.subscribed, first.told.trans second.told⟩

/-! ### Parts of telling a listener -/

theorem Secluded.dismiss
    (secluded : session.Secluded document)
    (handle : String) :
    (session.dismiss handle).Secluded document := by
  refine secluded.transfer (roster_dismiss session handle) ?_
  unfold Session.dismiss
  split <;> exact secluded.watchful

theorem HearAlike.dismiss
    (alike : HearAlike document left right)
    (handle : String) :
    HearAlike document (left.dismiss handle) (right.dismiss handle) := by
  have secluded := alike.secluded.dismiss handle
  have secludedToo := alike.secludedToo.dismiss handle
  unfold Session.dismiss at secluded secludedToo ⊢
  rw [alike.roster.handles] at secluded ⊢
  cases found : right.handles.get? handle with
  | none => exact alike
  | some place =>
      rw [found] at secluded secludedToo
      refine ⟨secluded, secludedToo, ⟨alike.roster.listeners, rfl⟩, ?_, alike.told⟩
      show (left.subscribed.filter fun other => other != place).filter (left.attends document) =
        (right.subscribed.filter fun other => other != place).filter (right.attends document)
      rw [List.filter_comm, alike.subscribed, List.filter_comm]

/-- To end the subscription of another listener does not matter. -/
theorem Secluded.hearAlike_dismiss
    (secluded : session.Secluded document)
    {handle : String}
    (apart : ∀ place, session.handles.get? handle = some place →
      session.attends document place = false) :
    HearAlike document (session.dismiss handle) session := by
  refine ⟨secluded.dismiss handle, secluded, (roster_dismiss session handle).symm, ?_, ?_⟩
  · rw [← (roster_dismiss session handle).attends]
    unfold Session.dismiss
    split
    · rfl
    · rename_i place found
      rw [List.filter_filter]
      refine List.filter_congr fun other _ => ?_
      by_cases here : other = place
      · rw [here, apart place found]
        rfl
      · rw [bne_iff_ne.mpr here, Bool.and_true]
  · rw [← (roster_dismiss session handle).names]
    unfold Session.dismiss
    split <;> rfl

theorem HearAlike.foldl_dismiss
    (alike : HearAlike document left right)
    (handles : List String) :
    HearAlike document (handles.foldl Session.dismiss left)
      (handles.foldl Session.dismiss right) := by
  induction handles generalizing left right with
  | nil => exact alike
  | cons handle rest ih => exact ih (alike.dismiss handle)

theorem Secluded.hearAlike_foldl_dismiss
    (secluded : session.Secluded document)
    {handles : List String}
    (apart : ∀ handle ∈ handles, ∀ place, session.handles.get? handle = some place →
      session.attends document place = false) :
    HearAlike document (handles.foldl Session.dismiss session) session := by
  induction handles with
  | nil => exact .refl secluded
  | cons handle rest ih =>
      rw [List.forall_mem_cons] at apart
      exact ((secluded.hearAlike_dismiss apart.1).foldl_dismiss rest).trans (ih apart.2)

theorem Secluded.record
    (secluded : session.Secluded document)
    (notification : Notification) :
    (session.record notification).Secluded document :=
  secluded.transfer ⟨rfl, rfl⟩ secluded.watchful

theorem HearAlike.record
    (alike : HearAlike document left right)
    (notification : Notification) :
    HearAlike document (left.record notification) (right.record notification) where
  secluded := alike.secluded.record notification
  secludedToo := alike.secludedToo.record notification
  roster := ⟨alike.roster.listeners, alike.roster.handles⟩
  subscribed := alike.subscribed
  told := by
    show List.filter (fun notification => left.names document notification.listener)
        (left.told ++ [notification]) =
      List.filter (fun notification => right.names document notification.listener)
        (right.told ++ [notification])
    rw [List.filter_append, List.filter_append, alike.told, alike.roster.names]

/-- What another listener is told does not matter. -/
theorem Secluded.hearAlike_record
    (secluded : session.Secluded document)
    {notification : Notification}
    (unheard : session.names document notification.listener = false) :
    HearAlike document (session.record notification) session where
  secluded := secluded.record notification
  secludedToo := secluded
  roster := ⟨rfl, rfl⟩
  subscribed := rfl
  told := by
    show List.filter (fun notification => session.names document notification.listener)
      (session.told ++ [notification]) = _
    rw [List.filter_append, List.filter_cons_of_neg (by simpa using unheard), List.filter_nil,
      List.append_nil]

/-- Whether the script of a listener is used up does not matter. -/
theorem Secluded.hearAlike_exhaust
    (secluded : session.Secluded document)
    (place : Nat) :
    HearAlike document (session.exhaust place) session := by
  have same := (roster_exhaust session place).symm
  refine ⟨secluded.transfer same.symm (secluded.watchful.exhaust place), secluded, same, ?_, ?_⟩
  · rw [same.attends]
    rfl
  · rw [same.names]
    rfl

/-! ### Telling listeners -/

theorem HearAlike.hear
    (alike : HearAlike document left right)
    {registry other : Registry}
    {event : Event}
    (sizes : registry.sizes event.document = other.sizes event.document)
    (place : Nat) :
    HearAlike document (hear registry event left place) (hear other event right place) := by
  have profile := alike.roster.profile place
  unfold Session.hear
  cases found : left.listeners[place]? with
  | none =>
      rw [found] at profile
      rw [Option.map_eq_none_iff.mp profile.symm]
      exact alike
  | some listener =>
      rw [found] at profile
      obtain ⟨listenerToo, foundToo, same⟩ := Option.map_eq_some_iff.mp profile.symm
      rw [foundToo]
      dsimp only [Session.hearing]
      rw [sizes, Listener.handle_of_profile same, Listener.dismissals_of_profile same]
      have dismissed := (alike.record ⟨listener.handle, event, other.sizes event.document⟩
        ).foldl_dismiss listener.dismissals
      exact ((dismissed.secluded.hearAlike_exhaust place).trans dismissed).trans
        (dismissed.secludedToo.hearAlike_exhaust place).symm

theorem HearAlike.foldl_hear
    (alike : HearAlike document left right)
    {registry other : Registry}
    {event : Event}
    (sizes : registry.sizes event.document = other.sizes event.document)
    (places : List Nat) :
    HearAlike document (places.foldl (Session.hear registry event) left)
      (places.foldl (Session.hear other event) right) := by
  induction places generalizing left right with
  | nil => exact alike
  | cons place rest ih => exact ih (alike.hear sizes place)

/-- To tell another listener does not matter. -/
theorem Secluded.hearAlike_hear
    (secluded : session.Secluded document)
    (registry : Registry)
    (event : Event)
    {place : Nat}
    (apart : session.attends document place = false) :
    HearAlike document (Session.hear registry event session place) session := by
  unfold Session.hear
  cases found : session.listeners[place]? with
  | none => exact .refl secluded
  | some listener =>
      have member := List.mem_of_getElem? found
      have elsewhere : listener.document ≠ some document := by
        rw [Session.attends, found] at apart
        simpa using apart
      let notification : Notification := ⟨listener.handle, event, registry.sizes event.document⟩
      have unheard : session.names document notification.listener = false := by
        refine List.any_eq_false.mpr fun other otherMember => ?_
        rw [Bool.and_eq_true, beq_iff_eq, beq_iff_eq]
        rintro ⟨handle, attending⟩
        exact elsewhere ((secluded.named other otherMember listener member handle).symm.trans
          attending)
      have recorded := secluded.hearAlike_record unheard
      have dismissed := recorded.secluded.hearAlike_foldl_dismiss
        (secluded.undismissed listener member elsewhere)
      exact ((dismissed.secluded.hearAlike_exhaust place).trans dismissed).trans recorded

/-- Of the listeners that are told, those of the document matter. -/
theorem Secluded.foldl_hear_filter
    (secluded : session.Secluded document)
    (registry : Registry)
    (event : Event)
    (places : List Nat) :
    HearAlike document (places.foldl (hear registry event) session)
      ((places.filter (session.attends document)).foldl (hear registry event) session) := by
  induction places generalizing session with
  | nil => exact .refl secluded
  | cons place rest ih =>
      by_cases attending : session.attends document place = true
      · have heard := ((HearAlike.refl secluded).hear (@rfl _ (registry.sizes event.document))
          place).secluded
        rw [List.filter_cons_of_pos attending, (roster_hear registry event session place).attends]
        exact ih heard
      · have apart := secluded.hearAlike_hear registry event (Bool.eq_false_iff.mpr attending)
        rw [List.filter_cons_of_neg attending]
        exact (apart.foldl_hear rfl rest).trans (ih secluded)

theorem filter_audience (session : Session) (document : String) (event : Event) :
    (session.audience event).filter (session.attends document) =
      if event.document = document then session.subscribed.filter (session.attends document)
      else [] := by
  unfold audience
  rw [List.filter_filter]
  split
  · rename_i here
    refine List.filter_congr fun place _ => ?_
    unfold attends
    cases session.listeners[place]? with
    | none => rfl
    | some listener =>
        by_cases attending : listener.document = some document
        · simp [attending, here]
        · simp [attending]
  · rename_i elsewhere
    refine List.filter_eq_nil_iff.mpr fun place _ => ?_
    unfold attends
    cases session.listeners[place]? with
    | none => simp
    | some listener =>
        rw [Option.any_some, Bool.and_eq_true, beq_iff_eq]
        rintro ⟨attending, told⟩
        simp only [attending, Option.isNone_some, Bool.false_or, beq_iff_eq,
          Option.some.injEq] at told
        exact elsewhere told.symm

/-! ### Publishing events -/

/-- An event of the document is published alike. -/
theorem HearAlike.published
    (alike : HearAlike document left right)
    {registry other : Registry}
    {event : Event}
    (sizes : registry.sizes document = other.sizes document)
    (here : event.document = document) :
    HearAlike document (left.published registry event) (right.published other event) := by
  have told := alike.secluded.foldl_hear_filter registry event (left.audience event)
  have toldToo := alike.secludedToo.foldl_hear_filter other event (right.audience event)
  rw [filter_audience, if_pos here] at told toldToo
  rw [alike.subscribed] at told
  exact (told.trans (alike.foldl_hear (here ▸ sizes) _)).trans toldToo.symm

/-- An event of another document does not matter. -/
theorem Secluded.hearAlike_published
    (secluded : session.Secluded document)
    (registry : Registry)
    {event : Event}
    (apart : event.document ≠ document) :
    HearAlike document (session.published registry event) session := by
  have told := secluded.foldl_hear_filter registry event (session.audience event)
  rw [filter_audience, if_neg apart] at told
  exact told

theorem HearAlike.informed
    (alike : HearAlike document left right)
    {registry other : Registry}
    (sizes : registry.sizes document = other.sizes document)
    {events : List Event}
    (here : ∀ event ∈ events, event.document = document) :
    HearAlike document (left.informed registry events) (right.informed other events) := by
  induction events generalizing left right with
  | nil => exact alike
  | cons event rest ih =>
      rw [List.forall_mem_cons] at here
      exact ih (alike.published sizes here.1) here.2

theorem Secluded.hearAlike_informed
    (secluded : session.Secluded document)
    (registry : Registry)
    {events : List Event}
    (apart : ∀ event ∈ events, event.document ≠ document) :
    HearAlike document (session.informed registry events) session := by
  induction events generalizing session with
  | nil => exact .refl secluded
  | cons event rest ih =>
      rw [List.forall_mem_cons] at apart
      have published := secluded.hearAlike_published registry apart.1
      exact (ih published.secluded apart.2).trans published

theorem Secluded.informed
    (secluded : session.Secluded document)
    (registry : Registry)
    (events : List Event) :
    (session.informed registry events).Secluded document :=
  secluded.transfer (roster_informed registry events session)
    (secluded.watchful.informed registry events)

end Session

end LuauNodes
