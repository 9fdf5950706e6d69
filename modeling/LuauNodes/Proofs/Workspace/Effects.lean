import LuauNodes.Proofs.Workspace.Hearing

/-!
# What requests come to

Every request to the registry is about one document, and comes to a change of it
that depends on nothing but what the registry holds of the document.  The change
is taken over, and its events are told to the listeners; a request that is not
accepted leaves everything as it was.  Clearing everything comes to such a change
for every document that holds something.
-/

namespace LuauNodes

open Registry

/-! ## What a request comes to -/

/-- The document that a request to the registry is about. -/
def Request.document? : Request → Option String
  | .ask document _ | .add document _ _ | .revise document _ _ _ _ | .remove document _ _ _
  | .clearSymbols document _ | .clearDocument document | .createScope document _
  | .destroyScope document _ | .enterScope document _ | .exitScope document _ => some document
  | _ => none

/-- A change whose result is put in another form. -/
def Change.map {α β : Type} (change : Change α) (f : α → β) : Change β :=
  ⟨change.registry, f change.result, change.events, change.notices⟩

/-- The change that a request to the registry comes to, or why it fails. -/
def Request.effect (registry : Registry) : Request → Except Failure (Change Response)
  | .ask document question =>
    match registry.reply document question with
    | .ok reply => .ok (registry.unchanged (.reply reply) [])
    | .error fault => .error (.tree fault)
  | .add document space draft =>
    match draft.read with
    | .ok symbol => .ok ((registry.declare space document symbol).map (.reply ∘ .symbol))
    | .bad faults => .error (.invalid faults)
  | .revise document space name scopeId fields =>
    .ok ((registry.revise space document name scopeId fields).map (.reply ∘ .symbol))
  | .remove document space name scopeId =>
    .ok ((registry.remove space document name scopeId).map (.reply ∘ .symbol))
  | .clearSymbols document space =>
    .ok ((registry.clearSymbols space document).map fun _ => .nothing)
  | .clearDocument document => .ok ((registry.clearDocument document).map fun _ => .nothing)
  | .createScope document data =>
    match Scope.read data with
    | .ok scope =>
      match registry.createScope document scope with
      | .ok change => .ok (change.map (.reply ∘ .scope))
      | .error fault => .error (.tree fault)
    | .bad faults => .error (.invalid faults)
  | .destroyScope document (some scopeId) =>
    .ok ((registry.destroyScope document scopeId).map (.reply ∘ .texts))
  | .destroyScope _ none => .ok (registry.unchanged (.reply (.texts [])) [])
  | .enterScope document scopeId =>
    .ok ((registry.enterScope document scopeId).map (.reply ∘ .flag))
  | .exitScope document (some scopeId) =>
    .ok ((registry.exitScope document scopeId).map (.reply ∘ .flag))
  | .exitScope _ none => .ok (registry.unchanged (.reply (.flag false)) [])
  | _ => .ok (registry.unchanged .nothing [])

section Effects

variable {document : String} {request : Request} {left right registry : Registry}

theorem Registry.ChangesAlike.map
    {α β : Type}
    {first second : Change α}
    (alike : ChangesAlike document first second)
    (f : α → β) :
    ChangesAlike document (first.map f) (second.map f) :=
  ⟨alike.registry, congrArg f alike.result, alike.events⟩

/-- A request to a document comes to the same where the registries agree on the document. -/
theorem Registry.AgreesOn.effect
    (agree : AgreesOn document left right)
    (addressed : request.document? = some document) :
    EndsAlike (ChangesAlike document) (request.effect left) (request.effect right) := by
  cases request with
  | ask target question =>
      cases addressed
      rw [Request.effect, Request.effect, agree.reply]
      cases right.reply document question with
      | ok reply => exact .ok (agree.unchanged _ _ _)
      | error fault => exact .error _
  | add target space draft =>
      cases addressed
      rw [Request.effect, Request.effect]
      cases draft.read with
      | ok symbol => exact .ok ((agree.declare space symbol).map _)
      | bad faults => exact .error _
  | revise target space name scopeId fields =>
      cases addressed
      exact .ok ((agree.revise space name scopeId fields).map _)
  | remove target space name scopeId =>
      cases addressed
      exact .ok ((agree.remove space name scopeId).map _)
  | clearSymbols target space =>
      cases addressed
      exact .ok ((agree.clearSymbols space).map _)
  | clearDocument target =>
      cases addressed
      exact .ok (agree.clearDocument.map _)
  | createScope target data =>
      cases addressed
      rw [Request.effect, Request.effect]
      cases Scope.read data with
      | bad faults => exact .error _
      | ok scope =>
          have alike := agree.createScope scope
          dsimp only
          generalize left.createScope document scope = leftEnd at alike ⊢
          generalize right.createScope document scope = rightEnd at alike ⊢
          cases alike with
          | error fault => exact .error _
          | ok alike => exact .ok (alike.map _)
  | destroyScope target scopeId =>
      cases addressed
      cases scopeId with
      | none => exact .ok (agree.unchanged _ _ _)
      | some scopeId => exact .ok ((agree.destroyScope scopeId).map _)
  | enterScope target scopeId =>
      cases addressed
      exact .ok ((agree.enterScope scopeId).map _)
  | exitScope target scopeId =>
      cases addressed
      cases scopeId with
      | none => exact .ok (agree.unchanged _ _ _)
      | some scopeId => exact .ok ((agree.exitScope scopeId).map _)
  | _ => cases addressed

theorem Registry.ChangesOnly.map
    {α β : Type}
    {change : Change α}
    (only : ChangesOnly document registry change)
    (f : α → β) :
    ChangesOnly document registry (change.map f) :=
  ⟨only.elsewhere, only.events⟩

/-- A request to a document changes that document alone. -/
theorem Request.changesOnly_effect
    (addressed : request.document? = some document)
    {change : Change Response}
    (accepted : request.effect registry = .ok change) :
    ChangesOnly document registry change := by
  cases request with
  | ask target question =>
      rw [Request.effect] at accepted
      split at accepted <;> cases accepted
      exact changesOnly_unchanged _ _
  | add target space draft =>
      cases addressed
      rw [Request.effect] at accepted
      split at accepted <;> cases accepted
      exact (changesOnly_declare space _).map _
  | revise target space name scopeId fields =>
      cases addressed
      cases accepted
      exact (changesOnly_revise space name scopeId fields).map _
  | remove target space name scopeId =>
      cases addressed
      cases accepted
      exact (changesOnly_remove space name scopeId).map _
  | clearSymbols target space =>
      cases addressed
      cases accepted
      exact (changesOnly_clearSymbols space).map _
  | clearDocument target =>
      cases addressed
      cases accepted
      exact changesOnly_clearDocument.map _
  | createScope target data =>
      cases addressed
      rw [Request.effect] at accepted
      split at accepted
      · split at accepted <;> cases accepted
        exact (changesOnly_createScope ‹_›).map _
      · cases accepted
  | destroyScope target scopeId =>
      cases addressed
      cases scopeId with
      | none =>
          cases accepted
          exact changesOnly_unchanged _ _
      | some scopeId =>
          cases accepted
          exact (changesOnly_destroyScope scopeId).map _
  | enterScope target scopeId =>
      cases addressed
      cases accepted
      exact (changesOnly_enterScope scopeId).map _
  | exitScope target scopeId =>
      cases addressed
      cases scopeId with
      | none =>
          cases accepted
          exact changesOnly_unchanged _ _
      | some scopeId =>
          cases accepted
          exact (changesOnly_exitScope scopeId).map _
  | _ => cases addressed

theorem Registry.AgreesOn.sizes
    (agree : AgreesOn document left right) :
    left.sizes document = right.sizes document := by
  have vars : left.vars.list document = right.vars.list document := (agree.table .vars).list
  have functions : left.functions.list document = right.functions.list document :=
    (agree.table .functions).list
  rw [Registry.sizes, Registry.sizes, vars, functions, ScopeTree.list, ScopeTree.list,
    agree.scopes.entries]

end Effects

/-! ## Requests in a session -/

namespace Session

open Act

variable {document : String} {request : Request} {before : Workspace Session}

/-- A change was taken over, and its events were published. -/
structure Follows {α : Type} (change : Change α) (before after : Workspace Session) : Prop where
  registry : after.registry = change.registry
  rest : after.rest = before.rest.informed change.registry change.events

/-- The events of a change that was taken over are published. -/
theorem ensures_follows
    {α : Type}
    {inner : Request → Act Session Response}
    (harmless : Harmless inner)
    (watchful : before.rest.Watchful)
    {change : Change α}
    {committed : Workspace Session}
    (registry : committed.registry = change.registry)
    (rest : committed.rest = before.rest) :
    (change.events.forM (publish inner)).Ensures committed fun _ after =>
      after.watches = committed.watches ∧ Follows change before after := by
  refine (ensures_publishEach harmless change.events (rest ▸ watchful)).mono ?_
  rintro _ after ⟨same, informed⟩
  rw [registry, rest] at informed
  exact ⟨same.watches, same.registry.trans registry, informed⟩

theorem ensures_perform_follows
    {α : Type}
    {inner : Request → Act Session Response}
    (harmless : Harmless inner)
    (watchful : before.rest.Watchful)
    (operation : Registry → Change α) :
    (perform (publish inner) operation).Ensures before fun result after =>
      result = (operation before.registry).result ∧
        Follows (operation before.registry) before after := by
  rw [ensures_perform]
  refine Ensures.mono (ensures_follows harmless watchful ?_ ?_) ?_
  · rfl
  · rfl
  · exact fun _ after follows => ⟨rfl, follows.2⟩

theorem follows_unchanged
    {α : Type}
    (before : Workspace Session)
    (result : α)
    (notices : List Notice) :
    Follows (before.registry.unchanged result notices) before before :=
  ⟨rfl, rfl⟩

theorem ensures_createScope_follows
    {inner : Request → Act Session Response}
    (harmless : Harmless inner)
    (watchful : before.rest.Watchful)
    {scope : Scope}
    {change : Change (Option Scope)}
    (created : before.registry.createScope document scope = .ok change) :
    (createScope (publish inner) document scope).Ensures before fun watch after =>
      (watch.bind fun place => after.watches[place]?).map Watch.scope = change.result ∧
        Follows change before after := by
  unfold Act.createScope
  simp only [ensures_bind, ensures_registry, created, ensures_ofTree_ok, ensures_commit,
    ensures_pure]
  cases result : change.result with
  | none =>
      refine (ensures_pure _ _).mpr (Ensures.mono (ensures_follows harmless watchful ?_ ?_) ?_)
      · rfl
      · rfl
      · exact fun _ after follows => ⟨rfl, follows.2⟩
  | some stored =>
      simp only [Option.mapM_some, follow, ensures_map, ensures_bind, ensures_get, ensures_modify,
        ensures_pure]
      refine Ensures.mono (ensures_follows harmless watchful ?_ ?_) ?_
      · rfl
      · rfl
      · rintro _ after ⟨watches, follows⟩
        refine ⟨?_, follows⟩
        rw [watches]
        simp

/-- A change with its result in another form is followed as the change itself. -/
theorem Follows.map
    {α β : Type}
    {change : Change α}
    {after : Workspace Session}
    (follows : Follows change before after)
    (f : α → β) :
    Follows (change.map f) before after :=
  ⟨follows.registry, follows.rest⟩

/-- An operation whose result is put in another form. -/
theorem ensures_perform_map
    {α : Type}
    {inner : Request → Act Session Response}
    (harmless : Harmless inner)
    (watchful : before.rest.Watchful)
    (operation : Registry → Change α)
    (f : α → Response) :
    (perform (publish inner) operation >>= fun result => pure (f result)).Ensures before
      fun response after =>
        response = ((operation before.registry).map f).result ∧
          Follows ((operation before.registry).map f) before after := by
  rw [ensures_bind]
  refine (ensures_perform_follows harmless watchful operation).mono ?_
  rintro _ after ⟨rfl, follows⟩
  exact (ensures_pure _ _).mpr ⟨rfl, follows.map f⟩

/-- A request that is accepted comes to its change. -/
theorem ensures_carryOut
    {inner : Request → Act Session Response}
    (harmless : Harmless inner)
    (answers : List Request → Act Session (List Answer))
    (watchful : before.rest.Watchful)
    (addressed : request.document? = some document)
    {change : Change Response}
    (accepted : request.effect before.registry = .ok change) :
    (carryOut (publish inner) answers request).Ensures before fun response after =>
      response = change.result ∧ Follows change before after := by
  cases request with
  | ask target question =>
      rw [Request.effect] at accepted
      split at accepted <;> cases accepted
      rename_i replied
      simp only [carryOut, ensures_bind, ensures_registry, replied, ensures_ofTree_ok, ensures_pure]
      exact ⟨rfl, follows_unchanged before _ _⟩
  | add target space draft =>
      rw [Request.effect] at accepted
      split at accepted <;> cases accepted
      rename_i symbol read
      simp only [carryOut, read, ofChecked, pure_bind]
      exact ensures_perform_map harmless watchful _ _
  | revise target space name scopeId fields =>
      cases accepted
      exact ensures_perform_map harmless watchful _ _
  | remove target space name scopeId =>
      cases accepted
      exact ensures_perform_map harmless watchful _ _
  | clearSymbols target space =>
      cases accepted
      exact ensures_perform_map harmless watchful _ _
  | clearDocument target =>
      cases accepted
      exact ensures_perform_map harmless watchful _ _
  | createScope target data =>
      rw [Request.effect] at accepted
      split at accepted
      · split at accepted <;> cases accepted
        rename_i scope read _ change created
        simp only [carryOut, read, ofChecked, pure_bind, ensures_bind]
        refine (ensures_createScope_follows harmless watchful created).mono ?_
        rintro watch after ⟨stored, follows⟩
        simp only [followed?, ensures_bind, ensures_get, ensures_pure]
        exact ⟨congrArg (Response.reply ∘ Reply.scope) stored, follows.map _⟩
      · cases accepted
  | destroyScope target scopeId =>
      cases scopeId with
      | none =>
          cases accepted
          exact (ensures_pure _ _).mpr ⟨rfl, follows_unchanged before _ _⟩
      | some scopeId =>
          cases accepted
          exact ensures_perform_map harmless watchful _ _
  | enterScope target scopeId =>
      cases accepted
      exact ensures_perform_map harmless watchful _ _
  | exitScope target scopeId =>
      cases scopeId with
      | none =>
          cases accepted
          exact (ensures_pure _ _).mpr ⟨rfl, follows_unchanged before _ _⟩
      | some scopeId =>
          cases accepted
          exact ensures_perform_map harmless watchful _ _
  | _ => cases addressed

/-- A request that fails leaves everything as it was. -/
theorem outcome_carryOut_of_error
    (inner : Request → Act Session Response)
    (answers : List Request → Act Session (List Answer))
    (addressed : request.document? = some document)
    {failure : Failure}
    (refused : request.effect before.registry = .error failure) :
    (carryOut (publish inner) answers request).outcome before = (.error failure, before) := by
  have asked : (registry : Act Session Registry).outcome before = (.ok before.registry, before) :=
    rfl
  cases request with
  | ask target question =>
      rw [Request.effect] at refused
      split at refused <;> cases refused
      rename_i replied
      rw [carryOut, outcome_bind, asked]
      dsimp only
      rw [replied]
      rfl
  | add target space draft =>
      rw [Request.effect] at refused
      split at refused <;> cases refused
      rename_i read
      rw [carryOut, read]
      rfl
  | createScope target data =>
      rw [Request.effect] at refused
      split at refused
      · split at refused <;> cases refused
        rename_i scope read _ fault refused
        rw [carryOut, read]
        simp only [ofChecked, pure_bind]
        rw [outcome_bind, Act.createScope, outcome_bind, asked]
        dsimp only
        rw [refused]
        rfl
      · cases refused
        rename_i read
        rw [carryOut, read]
        rfl
  | destroyScope target scopeId | exitScope target scopeId => cases scopeId <;> cases refused
  | revise _ _ _ _ _ | remove _ _ _ _ | clearSymbols _ _ | clearDocument _ | enterScope _ _ =>
      cases refused
  | _ => cases addressed

/-- A workspace in which a document was cleared and its listeners were told. -/
def cleared (before : Workspace Session) (document : String) : Workspace Session :=
  let change := before.registry.clearDocument document
  { before with
    registry := change.registry
    rest := before.rest.informed change.registry change.events }

theorem follows_cleared (before : Workspace Session) (document : String) :
    Follows (before.registry.clearDocument document) before (cleared before document) :=
  ⟨rfl, rfl⟩

/-- Clearing everything clears the documents that hold something in turn. -/
theorem ensures_clearAll
    {inner : Request → Act Session Response}
    (harmless : Harmless inner)
    (watchful : before.rest.Watchful) :
    (clearAll (publish inner)).Ensures before fun _ after =>
      after.registry = (before.registry.documents.foldl cleared before).registry ∧
        after.rest = (before.registry.documents.foldl cleared before).rest := by
  let reached (done : List String) (workspace : Workspace Session) : Prop :=
    workspace.registry = (done.foldl cleared before).registry ∧
      workspace.rest = (done.foldl cleared before).rest ∧ workspace.rest.Watchful
  have loop : ((forIn before.registry.documents PUnit.unit fun document _ => do
      perform (publish inner) fun registry => registry.clearDocument document
      pure (.yield PUnit.unit)) : Act Session PUnit).Ensures before
        fun _ after => reached before.registry.documents after := by
    refine ensures_forIn reached ⟨rfl, rfl, watchful⟩ ?_
    rintro done document rest workspace - ⟨registry, session, watchfulStill⟩
    rw [ensures_bind]
    refine (ensures_perform_follows harmless watchfulStill _).mono ?_
    rintro _ after ⟨-, follows⟩
    refine (ensures_pure _ _).mpr ⟨rfl, ?_, ?_, ?_⟩
    · rw [List.foldl_append, follows.registry, registry]
      rfl
    · rw [List.foldl_append, follows.rest, registry, session]
      rfl
    · rw [follows.rest]
      exact watchfulStill.informed _ _
  unfold clearAll
  simp only [ensures_bind, ensures_registry]
  exact loop.mono fun _ after kept => (ensures_pure _ _).mpr ⟨kept.1, kept.2.1⟩

end Session

end LuauNodes
