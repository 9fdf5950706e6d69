import LuauNodes.Proofs.Workspace.Effects

/-!
# Documents do not interfere

A run of requests over any mix of documents is, for each document, the run of
its own requests.  A request to the document is followed in both runs, any other
one in the mixed run alone, where it does not show.
-/

namespace LuauNodes

open Registry

namespace Session

open Act

/-! ## Answers -/

/-- A session that begins to collect what its listeners are told. -/
def untold (session : Session) : Session := { session with told := [] }

/-- A workspace in which a request is carried out for an answer. -/
def collecting (before : Workspace Session) : Workspace Session :=
  { before with notices := [], rest := before.rest.untold }

/-- A workspace after an answer, with what was collected before. -/
def resumed (before after : Workspace Session) : Workspace Session :=
  { after with notices := before.notices, rest := { after.rest with told := before.rest.told } }

/-- The answer that an outcome amounts to. -/
def answerOf : Except Failure Response × Workspace Session → Answer
  | (.ok response, after) => .done response after.rest.told after.notices
  | (.error failure, after) => .failed failure after.rest.told after.notices

theorem outcome_answer
    (run : Request → Act Session Response)
    (request : Request)
    (before : Workspace Session) :
    (answer run request).outcome before =
      (.ok (answerOf ((run request).outcome (collecting before))),
        resumed before ((run request).outcome (collecting before)).2) := by
  have got : ∀ workspace : Workspace Session,
      (get : Act Session (Workspace Session)).outcome workspace = (.ok workspace, workspace) :=
    fun _ => rfl
  have collected : collectAnew.outcome before = (.ok (), collecting before) := rfl
  have goneOn : ∀ workspace,
      (resume before).outcome workspace = (.ok (), resumed before workspace) :=
    fun _ => rfl
  unfold answer
  rw [outcome_bind, got]
  dsimp only
  rw [outcome_bind, collected]
  dsimp only
  rw [outcome_bind, outcome_tryCatch, ← bind_pure_comp, outcome_bind]
  rcases (run request).outcome (collecting before) with ⟨failure | response, after⟩
  · rfl
  · rfl

/-- The answer to a request in a session. -/
def answerTo (fuel : Nat) (before : Workspace Session) (request : Request) : Answer :=
  answerOf ((run fuel request).outcome (collecting before))

/-- The workspace that the answer to a request leaves. -/
def afterwards (fuel : Nat) (before : Workspace Session) (request : Request) : Workspace Session :=
  resumed before ((run fuel request).outcome (collecting before)).2

end Session

/-- How a request ended. -/
def Answer.outcome : Answer → Except Failure Response
  | .done response _ _ => .ok response
  | .failed failure _ _ => .error failure

/-- What listeners were told while a request was carried out. -/
def Answer.told : Answer → List Notification
  | .done _ told _ => told
  | .failed _ told _ => told

namespace Session

open Act

/-! ## Two workspaces side by side -/

/-- Two workspaces show the same of a document: they hold the same of it, and its listeners heard
the same. -/
structure ShowAlike (document : String) (left right : Workspace Session) : Prop where
  registry : AgreesOn document left.registry right.registry
  rest : HearAlike document left.rest right.rest

/-- What the listeners of a document were told on the way to an answer. -/
def heardIn (session : Session) (document : String) (answer : Answer) : List Notification :=
  answer.told.filter fun notification => session.names document notification.listener

variable {document : String} {request : Request} {left middle right before : Workspace Session}

theorem ShowAlike.refl (secluded : before.rest.Secluded document) :
    ShowAlike document before before :=
  ⟨.refl document _, .refl secluded⟩

theorem ShowAlike.symm (alike : ShowAlike document left right) : ShowAlike document right left :=
  ⟨alike.registry.symm, alike.rest.symm⟩

theorem ShowAlike.trans
    (first : ShowAlike document left middle)
    (second : ShowAlike document middle right) :
    ShowAlike document left right :=
  ⟨first.registry.trans second.registry, first.rest.trans second.rest⟩

theorem roster_collecting (before : Workspace Session) :
    before.rest.SameRoster (collecting before).rest :=
  ⟨rfl, rfl⟩

theorem Secluded.untold
    {session : Session}
    (secluded : session.Secluded document) :
    session.untold.Secluded document :=
  secluded.transfer ⟨rfl, rfl⟩ secluded.watchful

theorem ShowAlike.collecting
    (alike : ShowAlike document left right) :
    ShowAlike document (collecting left) (collecting right) where
  registry := alike.registry
  rest :=
    ⟨alike.rest.secluded.untold, alike.rest.secludedToo.untold,
      ⟨alike.rest.roster.listeners, alike.rest.roster.handles⟩, alike.rest.subscribed, rfl⟩

theorem Secluded.resumed
    {after : Workspace Session}
    (secluded : after.rest.Secluded document)
    (before : Workspace Session) :
    (resumed before after).rest.Secluded document :=
  secluded.transfer ⟨rfl, rfl⟩ secluded.watchful

/-- What was told before an answer is told again after it. -/
theorem ShowAlike.resumed
    {leftAfter rightAfter : Workspace Session}
    (alike : ShowAlike document left right)
    (kept : left.rest.SameRoster leftAfter.rest)
    (after : ShowAlike document leftAfter rightAfter) :
    ShowAlike document (resumed left leftAfter) (resumed right rightAfter) where
  registry := after.registry
  rest :=
    { secluded := after.rest.secluded.resumed left
      secludedToo := after.rest.secludedToo.resumed right
      roster := ⟨after.rest.roster.listeners, after.rest.roster.handles⟩
      subscribed := after.rest.subscribed
      told := by
        have keptToo := (alike.rest.roster.symm.trans kept).trans after.rest.roster
        have told := alike.rest.told
        rw [kept.names, keptToo.names] at told
        exact told }

theorem outcome_answerOf (ended : Except Failure Response × Workspace Session) :
    (answerOf ended).outcome = ended.1 := by
  rcases ended with ⟨failure | response, after⟩ <;> rfl

theorem told_answerOf (ended : Except Failure Response × Workspace Session) :
    (answerOf ended).told = ended.2.rest.told := by
  rcases ended with ⟨failure | response, after⟩ <;> rfl

/-- What two workspaces make of a request each shows alike for a document. -/
structure AnswerAlike
    (document : String)
    (fuel : Nat)
    (left right : Workspace Session)
    (leftRequest rightRequest : Request) :
    Prop where
  outcome : (answerTo fuel left leftRequest).outcome = (answerTo fuel right rightRequest).outcome
  heard : heardIn left.rest document (answerTo fuel left leftRequest) =
    heardIn left.rest document (answerTo fuel right rightRequest)
  after : ShowAlike document (afterwards fuel left leftRequest)
    (afterwards fuel right rightRequest)
  roster : left.rest.SameRoster (afterwards fuel left leftRequest).rest

/-- What a workspace makes of a request does not show for a document. -/
structure AnswersApart
    (document : String)
    (fuel : Nat)
    (before : Workspace Session)
    (request : Request) :
    Prop where
  unheard : heardIn before.rest document (answerTo fuel before request) = []
  after : ShowAlike document (afterwards fuel before request) before

theorem ShowAlike.answerAlike
    (alike : ShowAlike document left right)
    {fuel : Nat}
    {leftRequest rightRequest : Request}
    {leftEnd rightEnd : Except Failure Response × Workspace Session}
    (leftRun : (run fuel leftRequest).outcome (Session.collecting left) = leftEnd)
    (rightRun : (run fuel rightRequest).outcome (Session.collecting right) = rightEnd)
    (same : leftEnd.1 = rightEnd.1)
    (kept : left.rest.SameRoster leftEnd.2.rest)
    (after : ShowAlike document leftEnd.2 rightEnd.2) :
    AnswerAlike document fuel left right leftRequest rightRequest where
  outcome := by
    rw [answerTo, answerTo, leftRun, rightRun, outcome_answerOf, outcome_answerOf, same]
  heard := by
    have told := after.rest.told
    rw [← after.rest.roster.names, ← kept.names] at told
    rw [heardIn, heardIn, answerTo, answerTo, leftRun, rightRun, told_answerOf, told_answerOf]
    exact told
  after := by
    rw [afterwards, afterwards, leftRun, rightRun]
    exact alike.resumed kept after
  roster := by
    rw [afterwards, leftRun]
    exact ⟨kept.listeners, kept.handles⟩

theorem answersApart_of_outcome
    {fuel : Nat}
    {ended : Except Failure Response × Workspace Session}
    (ran : (run fuel request).outcome (collecting before) = ended)
    (after : ShowAlike document ended.2 (collecting before)) :
    AnswersApart document fuel before request where
  unheard := by
    have told := after.rest.told
    rw [after.rest.roster.names] at told
    rw [heardIn, answerTo, ran, told_answerOf]
    exact told
  after := by
    rw [afterwards, ran]
    refine ⟨after.registry, after.rest.secluded.resumed before,
      after.rest.secludedToo.transfer ⟨rfl, rfl⟩ after.rest.secludedToo.watchful,
      ⟨after.rest.roster.listeners, after.rest.roster.handles⟩, after.rest.subscribed, ?_⟩
    show List.filter (fun notification : Notification =>
      ended.2.rest.names document notification.listener) before.rest.told = _
    rw [after.rest.roster.names]
    rfl

/-! ### Changes that are followed -/

/-- A change of the document is followed alike. -/
theorem ShowAlike.follows
    {α β : Type}
    {leftChange : Change α}
    {rightChange : Change β}
    {leftAfter rightAfter : Workspace Session}
    (alike : ShowAlike document left right)
    (agree : AgreesOn document leftChange.registry rightChange.registry)
    (events : leftChange.events = rightChange.events)
    (here : ∀ event ∈ leftChange.events, event.document = document)
    (leftFollows : Follows leftChange left leftAfter)
    (rightFollows : Follows rightChange right rightAfter) :
    ShowAlike document leftAfter rightAfter where
  registry := by
    rw [leftFollows.registry, rightFollows.registry]
    exact agree
  rest := by
    rw [leftFollows.rest, rightFollows.rest, ← events]
    exact alike.rest.informed agree.sizes here

/-- A change of another document does not show. -/
theorem Follows.showAlike
    {α : Type}
    {change : Change α}
    {after : Workspace Session}
    {other : String}
    (follows : Follows change before after)
    (secluded : before.rest.Secluded document)
    (only : ChangesOnly other before.registry change)
    (apart : other ≠ document) :
    ShowAlike document after before where
  registry := by
    rw [follows.registry]
    exact only.agreesOn apart
  rest := by
    rw [follows.rest]
    exact secluded.hearAlike_informed _ fun event told => only.events event told ▸ apart

/-! ### Requests to one document -/

/-- A request to the document is answered alike, and its listeners hear the same. -/
theorem ShowAlike.addressed
    (alike : ShowAlike document left right)
    (fuel : Nat)
    (addressed : request.document? = some document) :
    AnswerAlike document (fuel + 1) left right request request := by
  have watchful := alike.rest.secluded.untold.watchful
  have watchfulToo := alike.rest.secludedToo.untold.watchful
  have effects := alike.registry.effect addressed
  cases accepted : request.effect left.registry with
  | error failure =>
      rw [accepted] at effects
      cases refused : request.effect right.registry with
      | ok change => rw [refused] at effects; cases effects
      | error other =>
          rw [refused] at effects
          cases effects
          exact alike.answerAlike
            (outcome_carryOut_of_error _ _ addressed accepted)
            (outcome_carryOut_of_error _ _ addressed refused)
            rfl (roster_collecting left) alike.collecting
  | ok change =>
      rw [accepted] at effects
      cases acceptedToo : request.effect right.registry with
      | error failure => rw [acceptedToo] at effects; cases effects
      | ok other =>
          rw [acceptedToo] at effects
          cases effects with
          | ok changes =>
              let answers (steps : List Request) := steps.mapM (answer (run fuel))
              obtain ⟨_, leftAfter, leftRun, rfl, leftFollows⟩ :=
                @ensures_carryOut document request (Session.collecting left) _ (harmless_run fuel)
                  answers watchful addressed _ accepted
              obtain ⟨_, rightAfter, rightRun, rfl, rightFollows⟩ :=
                @ensures_carryOut document request (Session.collecting right) _ (harmless_run fuel)
                  answers watchfulToo addressed _ acceptedToo
              refine alike.answerAlike leftRun rightRun (congrArg Except.ok changes.result) ?_ ?_
              · rw [leftFollows.rest]
                exact (roster_collecting left).trans (roster_informed _ _ _)
              · exact alike.collecting.follows changes.registry changes.events
                  (Request.changesOnly_effect addressed accepted).events leftFollows rightFollows

/-- A request to another document does not show. -/
theorem Secluded.answersApart
    (secluded : before.rest.Secluded document)
    (fuel : Nat)
    {other : String}
    (addressed : request.document? = some other)
    (apart : other ≠ document) :
    AnswersApart document (fuel + 1) before request := by
  have secludedToo : (collecting before).rest.Secluded document := secluded.untold
  cases accepted : request.effect before.registry with
  | error failure =>
      exact answersApart_of_outcome
        (outcome_carryOut_of_error _ _ addressed accepted)
        (.refl secludedToo)
  | ok change =>
      obtain ⟨_, after, ran, rfl, follows⟩ :=
        @ensures_carryOut other request (collecting before) _ (harmless_run fuel)
          (fun steps => steps.mapM (answer (run fuel))) secludedToo.watchful addressed _ accepted
      exact answersApart_of_outcome ran
        (follows.showAlike secludedToo (Request.changesOnly_effect addressed accepted) apart)

/-! ### Requests to clear everything -/

/-- To clear other documents does not show. -/
theorem Secluded.showAlike_foldl_cleared
    (secluded : before.rest.Secluded document)
    {documents : List String}
    (apart : document ∉ documents) :
    ShowAlike document (documents.foldl cleared before) before := by
  induction documents generalizing before with
  | nil => exact .refl secluded
  | cons other rest ih =>
      rw [List.mem_cons, not_or] at apart
      have unseen := (follows_cleared before other).showAlike secluded changesOnly_clearDocument
        (Ne.symm apart.1)
      exact (ih unseen.rest.secluded apart.2).trans unseen

/-- To clear several documents shows as far as the document is among them. -/
theorem ShowAlike.foldl_cleared
    (alike : ShowAlike document left right)
    {documents : List String}
    (once : documents.Nodup)
    (listed : document ∈ documents) :
    ShowAlike document (documents.foldl cleared left) (cleared right document) := by
  obtain ⟨front, back, rfl⟩ := List.append_of_mem listed
  rw [List.nodup_append, List.nodup_cons] at once
  obtain ⟨-, ⟨behind, -⟩, disjoint⟩ := once
  have ahead : document ∉ front := fun member => disjoint _ member _ List.mem_cons_self rfl
  rw [List.foldl_append, List.foldl_cons]
  have reached := (alike.rest.secluded.showAlike_foldl_cleared ahead).trans alike
  have here := reached.follows reached.registry.clearDocument.registry
    reached.registry.clearDocument.events (by simp [clearDocument]) (follows_cleared _ document)
    (follows_cleared right document)
  exact (here.rest.secluded.showAlike_foldl_cleared behind).trans here

theorem roster_foldl_cleared (documents : List String) (before : Workspace Session) :
    before.rest.SameRoster (documents.foldl cleared before).rest := by
  induction documents generalizing before with
  | nil => exact .refl before.rest
  | cons document rest ih =>
      have first : before.rest.SameRoster (cleared before document).rest :=
        roster_informed _ _ before.rest
      exact first.trans (ih _)

theorem nodup_documents (registry : Registry) : registry.documents.Nodup :=
  (NameSet.increasing_ofList _).nodup_toList

theorem ensures_run_clearAll
    (fuel : Nat)
    (watchful : before.rest.Watchful) :
    (run (fuel + 1) .clearAll).Ensures before fun response after =>
      response = .nothing ∧
        after.registry = (before.registry.documents.foldl cleared before).registry ∧
        after.rest = (before.registry.documents.foldl cleared before).rest := by
  show (clearAll (publish (run fuel)) >>= fun _ => pure Response.nothing).Ensures before _
  rw [ensures_bind]
  exact (ensures_clearAll (harmless_run fuel) watchful).mono fun _ after same =>
    (ensures_pure _ _).mpr ⟨rfl, same⟩

/-- Where a document holds nothing, to clear everything does not show. -/
theorem Secluded.clearAll_apart
    (secluded : before.rest.Secluded document)
    (fuel : Nat)
    (bare : document ∉ before.registry.documents) :
    AnswersApart document (fuel + 1) before .clearAll := by
  have secludedToo : (collecting before).rest.Secluded document := secluded.untold
  obtain ⟨_, after, ran, -, registry, rest⟩ := ensures_run_clearAll fuel secludedToo.watchful
  have unseen : ShowAlike document
      ((collecting before).registry.documents.foldl cleared (collecting before))
      (collecting before) := secludedToo.showAlike_foldl_cleared bare
  exact answersApart_of_outcome ran ⟨registry ▸ unseen.registry, rest ▸ unseen.rest⟩

/-- Where a document holds something, to clear everything is to clear the document. -/
theorem ShowAlike.clearAll
    (alike : ShowAlike document left right)
    (fuel : Nat)
    (held : document ∈ left.registry.documents) :
    AnswerAlike document (fuel + 1) left right .clearAll (.clearDocument document) := by
  obtain ⟨_, leftAfter, leftRun, rfl, registry, rest⟩ :=
    ensures_run_clearAll fuel alike.collecting.rest.secluded.watchful
  obtain ⟨_, rightAfter, rightRun, rfl, follows⟩ :=
    @ensures_carryOut document (.clearDocument document) _ _ (harmless_run fuel)
      (fun steps => steps.mapM (answer (run fuel))) alike.collecting.rest.secludedToo.watchful rfl
      _ rfl
  have shown := alike.collecting.foldl_cleared
    (nodup_documents (Session.collecting left).registry) held
  refine alike.answerAlike leftRun rightRun rfl ?_ ?_
  · rw [rest]
    exact (roster_collecting left).trans (roster_foldl_cleared _ _)
  · refine ⟨?_, ?_⟩
    · rw [registry, follows.registry]
      exact shown.registry
    · rw [rest, follows.rest]
      exact shown.rest

end Session

/-! ## Runs -/

/-- A request of a run, the registry in which it is made, and the answer. -/
structure Exchange where
  request : Request
  registry : Registry
  answer : Answer

/-- A request to the registry, to one document of it or to all. -/
def Request.isOfRegistry : Request → Bool
  | .clearAll => true
  | request => request.document?.isSome

/-- A request is about a document, alone or among others. -/
def Request.concerns (document : String) : Request → Bool
  | .clearAll => true
  | request => request.document? == some document

/-- What a request asks of one document, where the registry is as given: to clear everything asks
for the document to be cleared if it holds something. -/
def Request.within (document : String) (registry : Registry) : Request → List Request
  | .clearAll => if document ∈ registry.documents then [.clearDocument document] else []
  | request => if request.document? = some document then [request] else []

section Requests

variable {document : String} {request : Request}

theorem Request.ne_clearAll_of_addressed
    (addressed : request.document? = some document) :
    request ≠ .clearAll := by
  rintro rfl
  cases addressed

theorem Request.concerns_of_ne
    (single : request ≠ .clearAll)
    (document : String) :
    request.concerns document = (request.document? == some document) := by
  cases request <;> first | exact absurd rfl single | rfl

theorem Request.within_of_ne
    (single : request ≠ .clearAll)
    (document : String)
    (registry : Registry) :
    request.within document registry =
      if request.document? = some document then [request] else [] := by
  cases request <;> first | exact absurd rfl single | rfl

theorem Request.exists_document?
    (single : request ≠ .clearAll)
    (ofRegistry : request.isOfRegistry = true) :
    ∃ document, request.document? = some document := by
  refine Option.isSome_iff_exists.mp ?_
  cases request <;> first | exact absurd rfl single | exact ofRegistry

theorem Request.within_of_addressed
    (addressed : request.document? = some document)
    (registry : Registry) :
    request.within document registry = [request] := by
  rw [Request.within_of_ne (Request.ne_clearAll_of_addressed addressed), if_pos addressed]

theorem Registry.AgreesOn.within
    {left right : Registry}
    (agree : AgreesOn document left right)
    (request : Request) :
    request.within document left = request.within document right := by
  by_cases all : request = .clearAll
  · subst all
    simp only [Request.within, agree.mem_documents]
  · rw [Request.within_of_ne all, Request.within_of_ne all]

end Requests

namespace Session

/-- The exchanges of a run. -/
def exchanges (fuel : Nat) : List Request → Workspace Session → List Exchange
  | [], _ => []
  | request :: rest, before =>
    ⟨request, before.registry, answerTo fuel before request⟩ ::
      exchanges fuel rest (afterwards fuel before request)

/-- The workspace that a run leaves. -/
def afterAll (fuel : Nat) : List Request → Workspace Session → Workspace Session
  | [], before => before
  | request :: rest, before => afterAll fuel rest (afterwards fuel before request)

/-- A run comes to its end with the answers of its exchanges. -/
theorem outcome_mapM_answer
    (fuel : Nat)
    (requests : List Request)
    (before : Workspace Session) :
    Act.outcome (requests.mapM (answer (run fuel))) before =
      (.ok ((exchanges fuel requests before).map Exchange.answer),
        afterAll fuel requests before) := by
  induction requests generalizing before with
  | nil => rfl
  | cons request rest ih =>
      rw [List.mapM_cons, Act.outcome_bind, outcome_answer]
      dsimp only
      rw [Act.outcome_bind]
      have later := ih (afterwards fuel before request)
      rw [afterwards] at later
      rw [later]
      rfl

/-- What some exchanges ask of one document. -/
def askedOf (document : String) (run : List Exchange) : List Request :=
  run.flatMap fun exchange => exchange.request.within document exchange.registry

/-- How the requests of one document ended. -/
def outcomesOf (document : String) (run : List Exchange) : List (Except Failure Response) :=
  (run.filter fun exchange => !(exchange.request.within document exchange.registry).isEmpty).map
    fun exchange => exchange.answer.outcome

/-- What the listeners of a document were told in some exchanges. -/
def heardOf (session : Session) (document : String) (run : List Exchange) : List Notification :=
  run.flatMap fun exchange => heardIn session document exchange.answer

/-- What a listener was told in some exchanges. -/
def heardBy (handle : String) (run : List Exchange) : List Notification :=
  run.flatMap fun exchange =>
    exchange.answer.told.filter fun notification => notification.listener == handle

variable {document : String} {request : Request} {left middle right before : Workspace Session}

/-- A request either does not show for a document, or shows as the one that it asks of it. -/
theorem Secluded.apart_or_alike
    (secluded : left.rest.Secluded document)
    (fuel : Nat)
    (ofRegistry : request.isOfRegistry = true) :
    (request.within document left.registry = [] ∧
        AnswersApart document (fuel + 1) left request) ∨
      ∃ asked : Request, request.within document left.registry = [asked] ∧
        asked.document? = some document ∧
        ∀ right, ShowAlike document left right →
          AnswerAlike document (fuel + 1) left right request asked := by
  by_cases all : request = .clearAll
  · subst all
    by_cases held : document ∈ left.registry.documents
    · exact Or.inr ⟨.clearDocument document, if_pos held, rfl,
        fun right alike => alike.clearAll fuel held⟩
    · exact Or.inl ⟨if_neg held, secluded.clearAll_apart fuel held⟩
  · obtain ⟨other, addressed⟩ := Request.exists_document? all ofRegistry
    by_cases here : other = document
    · subst here
      exact Or.inr ⟨request, Request.within_of_addressed addressed _, addressed,
        fun right alike => alike.addressed fuel addressed⟩
    · have elsewhere : request.within document left.registry = [] := by
        rw [Request.within_of_ne all, addressed, if_neg (by simpa using here)]
      exact Or.inl ⟨elsewhere, secluded.answersApart fuel addressed here⟩

/-- Two runs show the same of a document. -/
structure RunAlike
    (document : String)
    (fuel : Nat)
    (left right : Workspace Session)
    (leftRequests rightRequests : List Request) :
    Prop where
  outcomes : outcomesOf document (exchanges fuel leftRequests left) =
    outcomesOf document (exchanges fuel rightRequests right)
  heard : heardOf left.rest document (exchanges fuel leftRequests left) =
    heardOf left.rest document (exchanges fuel rightRequests right)
  after : ShowAlike document (afterAll fuel leftRequests left) (afterAll fuel rightRequests right)

theorem SameRoster.heardIn
    {first second : Session}
    (same : first.SameRoster second) :
    heardIn first document = heardIn second document := by
  funext answer
  rw [Session.heardIn, Session.heardIn, same.names]

theorem SameRoster.heardOf
    {first second : Session}
    (same : first.SameRoster second) :
    heardOf first document = heardOf second document := by
  funext run
  rw [Session.heardOf, Session.heardOf, same.heardIn]

/-- A run shows the same of a document as the run of what it asks of it. -/
theorem ShowAlike.run
    (alike : ShowAlike document left right)
    (fuel : Nat)
    {requests : List Request}
    (ofRegistry : ∀ request ∈ requests, request.isOfRegistry = true) :
    RunAlike document (fuel + 1) left right requests
      (askedOf document (exchanges (fuel + 1) requests left)) := by
  induction requests generalizing left right with
  | nil => exact ⟨rfl, rfl, alike⟩
  | cons request rest ih =>
      rw [List.forall_mem_cons] at ofRegistry
      rcases alike.rest.secluded.apart_or_alike fuel ofRegistry.1 with
        ⟨nothing, apart⟩ | ⟨asked, something, addressed, answers⟩
      · have later := ih (apart.after.trans alike) ofRegistry.2
        have asks : askedOf document (exchanges (fuel + 1) (request :: rest) left) =
            askedOf document (exchanges (fuel + 1) rest (afterwards (fuel + 1) left request)) := by
          show Request.within _ _ _ ++ _ = _
          rw [nothing, List.nil_append]
          rfl
        rw [asks]
        refine ⟨?_, ?_, later.after⟩
        · rw [← later.outcomes, outcomesOf, exchanges, List.filter_cons_of_neg (by simp [nothing])]
          rfl
        · have heard := later.heard
          rw [apart.after.rest.roster.heardOf] at heard
          rw [← heard]
          show heardIn left.rest document _ ++ _ = _
          rw [apart.unheard, List.nil_append]
          rfl
      · have answered := answers right alike
        have later := ih answered.after ofRegistry.2
        have asks : askedOf document (exchanges (fuel + 1) (request :: rest) left) =
            asked :: askedOf document
              (exchanges (fuel + 1) rest (afterwards (fuel + 1) left request)) := by
          show Request.within _ _ _ ++ _ = _
          rw [something, List.singleton_append]
          rfl
        rw [asks]
        refine ⟨?_, ?_, later.after⟩
        · rw [outcomesOf, exchanges, List.filter_cons_of_pos (by simp [something]), List.map_cons,
            outcomesOf, exchanges, List.filter_cons_of_pos
              (by simp [Request.within_of_addressed addressed]), List.map_cons]
          exact congrArg₂ List.cons answered.outcome later.outcomes
        · have heard := later.heard
          rw [← answered.roster.heardOf] at heard
          exact congrArg₂ List.append answered.heard heard

/-! ### The requests of one document -/

/-- A request about the document leaves alike what was alike. -/
theorem ShowAlike.afterwards_of_concerns
    (alike : ShowAlike document left right)
    (fuel : Nat)
    (concerned : request.concerns document = true) :
    ShowAlike document (afterwards (fuel + 1) left request)
      (afterwards (fuel + 1) right request) := by
  by_cases all : request = .clearAll
  · subst all
    by_cases held : document ∈ left.registry.documents
    · have heldToo := alike.registry.mem_documents.mp held
      have itself : ShowAlike document right right := .refl alike.rest.secludedToo
      exact (alike.clearAll fuel held).after.trans (itself.clearAll fuel heldToo).after.symm
    · have bare := mt alike.registry.mem_documents.mpr held
      have unseen := alike.rest.secluded.clearAll_apart fuel held
      have unseenToo := alike.rest.secludedToo.clearAll_apart fuel bare
      exact (unseen.after.trans alike).trans unseenToo.after.symm
  · rw [Request.concerns_of_ne all, beq_iff_eq] at concerned
    exact (alike.addressed fuel concerned).after

/-- A run asks the same of a document as the run of the requests that are about it. -/
theorem ShowAlike.askedOf_filter
    (alike : ShowAlike document left right)
    (fuel : Nat)
    {requests : List Request}
    (ofRegistry : ∀ request ∈ requests, request.isOfRegistry = true) :
    askedOf document (exchanges (fuel + 1) requests left) =
      askedOf document
        (exchanges (fuel + 1) (requests.filter (Request.concerns document)) right) := by
  induction requests generalizing left right with
  | nil => rfl
  | cons request rest ih =>
      rw [List.forall_mem_cons] at ofRegistry
      by_cases concerned : request.concerns document = true
      · rw [List.filter_cons_of_pos concerned]
        exact congrArg₂ List.append (alike.registry.within request)
          (ih (alike.afterwards_of_concerns fuel concerned) ofRegistry.2)
      · have single : request ≠ .clearAll := by
          rintro rfl
          exact concerned rfl
        obtain ⟨other, addressed⟩ := Request.exists_document? single ofRegistry.1
        rw [Request.concerns_of_ne single, addressed, beq_iff_eq] at concerned
        have elsewhere : other ≠ document := fun same => concerned (congrArg some same)
        have apart := alike.rest.secluded.answersApart fuel addressed elsewhere
        rw [List.filter_cons_of_neg
          (by rw [Request.concerns_of_ne single, addressed]; simpa using elsewhere)]
        show Request.within document left.registry request ++ _ = _
        rw [Request.within_of_ne single, addressed, if_neg (by simpa using elsewhere),
          List.nil_append]
        exact ih (apart.after.trans alike) ofRegistry.2

/-! ### What one listener hears -/

theorem heardBy_eq_filter
    (session : Session)
    {listener : Listener}
    (member : listener ∈ session.listeners)
    (attending : listener.document = some document)
    (run : List Exchange) :
    heardBy listener.handle run =
      (heardOf session document run).filter fun notification =>
        notification.listener == listener.handle := by
  rw [heardOf, List.filter_flatMap]
  refine List.flatMap_congr fun exchange _ => ?_
  rw [heardIn, List.filter_filter]
  refine List.filter_congr fun notification _ => ?_
  by_cases told : notification.listener = listener.handle
  · have named : session.names document notification.listener = true :=
      List.any_eq_true.mpr ⟨listener, member, by simp [told, attending]⟩
    rw [named, Bool.and_true]
  · rw [beq_false_of_ne told, Bool.false_and]

/-- Of two runs from one workspace, one document and its listeners cannot tell which one it was. -/
structure SameWithin
    (document : String)
    (fuel : Nat)
    (before : Workspace Session)
    (requests others : List Request) :
    Prop where
  registry : AgreesOn document (afterAll fuel requests before).registry
    (afterAll fuel others before).registry
  outcomes : outcomesOf document (exchanges fuel requests before) =
    outcomesOf document (exchanges fuel others before)
  heard : ∀ listener ∈ before.rest.listeners, listener.document = some document →
    heardBy listener.handle (exchanges fuel requests before) =
      heardBy listener.handle (exchanges fuel others before)

theorem RunAlike.sameWithin
    {fuel : Nat}
    {requests others : List Request}
    (alike : RunAlike document fuel before before requests others) :
    SameWithin document fuel before requests others where
  registry := alike.after.registry
  outcomes := alike.outcomes
  heard listener member attending := by
    rw [heardBy_eq_filter before.rest member attending, alike.heard,
      ← heardBy_eq_filter before.rest member attending]

/-- Documents do not interfere: a document and its listeners cannot tell a run of requests to the
registry from the run of the requests that are about the document, nor from the run in which
clearing everything is to clear the document where it holds something, and nothing where it does
not. -/
theorem Secluded.noninterference
    (secluded : before.rest.Secluded document)
    (fuel : Nat)
    {requests : List Request}
    (ofRegistry : ∀ request ∈ requests, request.isOfRegistry = true) :
    SameWithin document (fuel + 1) before requests
        (requests.filter (Request.concerns document)) ∧
      SameWithin document (fuel + 1) before requests
        (askedOf document (exchanges (fuel + 1) requests before)) := by
  have itself : ShowAlike document before before := .refl secluded
  have ofRegistryToo : ∀ request ∈ requests.filter (Request.concerns document),
      request.isOfRegistry = true :=
    fun request member => ofRegistry request (List.mem_filter.mp member).1
  have mixed := itself.run fuel ofRegistry
  have alone := itself.run fuel ofRegistryToo
  rw [← itself.askedOf_filter fuel ofRegistry] at alone
  exact ⟨(RunAlike.mk (mixed.outcomes.trans alone.outcomes.symm)
    (mixed.heard.trans alone.heard.symm) (mixed.after.trans alone.after.symm)).sameWithin,
    mixed.sameWithin⟩

/-- A session with a failing listener of one document, and a curious one of all documents that
listens once. -/
def overheard : Workspace Session :=
  .fresh ((fresh.subscribe ⟨"ear", some "main", true, [], []⟩).subscribe
    ⟨"lobby", none, false, ["lobby"], [.dump "main"]⟩)

theorem secluded_overheard : overheard.rest.Secluded "main" where
  watchful := by
    rintro listener member request asked
    rcases List.mem_pair.mp member with rfl | rfl
    · cases asked
    · rw [List.mem_singleton.mp asked]
      rfl
  named := by
    intro listener member other otherMember same
    rcases List.mem_pair.mp member with rfl | rfl <;>
      rcases List.mem_pair.mp otherMember with rfl | rfl <;> simp_all
  undismissed := by
    intro listener member elsewhere handle dismissed place found
    rcases List.mem_pair.mp member with rfl | rfl
    · exact absurd rfl elsewhere
    · rw [List.mem_singleton.mp dismissed] at found
      cases found
      rfl

theorem noninterference_overheard :
    let requests : List Request :=
      [.add "main" .vars ⟨false, .object [("name", .text "total")]⟩, .clearDocument "other",
        .clearAll, .clearAll]
    overheard.rest.Secluded "main" ∧
      (∀ request ∈ requests, request.isOfRegistry = true) ∧
      SameWithin "main" 2 overheard requests (requests.filter (Request.concerns "main")) ∧
      SameWithin "main" 2 overheard requests
        (askedOf "main" (exchanges 2 requests overheard)) :=
  ⟨secluded_overheard, by decide, secluded_overheard.noninterference 1 (by decide)⟩

/-- To clear everything is not to clear a document that holds nothing: clearing the document is told
to its listeners, clearing everything is not. -/
theorem not_sameWithin_clearAll :
    ¬ SameWithin "main" 1 overheard [.clearAll] [.clearDocument "main"] := by
  intro same
  have heard := same.heard ⟨"ear", some "main", true, [], []⟩ List.mem_cons_self rfl
  have silent : (heardBy "ear" (exchanges 1 [.clearAll] overheard)).length = 0 := rfl
  have told : (heardBy "ear" (exchanges 1 [.clearDocument "main"] overheard)).length = 1 := rfl
  rw [heard, told] at silent
  cases silent

end Session

end LuauNodes
