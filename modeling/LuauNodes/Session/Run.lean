import LuauNodes.Session.Delivery

/-!
# Carrying out requests

Every request is an activity in the workspace of the session.  Listeners that are
told of an event may make requests of their own; as a script runs only once, the
number of requests bounds how deep this goes.
-/

namespace LuauNodes.Session

open LuauNodes.Record

/-! ## Names -/

/-- The place that a name stands for. -/
def placeOf (names : OrderedMap String Nat) (handle : String) : Act Session Nat :=
  match names.get? handle with
  | some place => pure place
  | none => Act.fail (.unknownHandle handle)

/-- The mount that a name stands for. -/
def mountPlace (handle : String) : Act Session Nat := do
  placeOf (← Act.rest).mounts handle

/-- The binding that a name stands for. -/
def bindingPlace (handle : String) : Act Session Nat := do
  placeOf (← Act.rest).bindings handle

/-- The place where an analysis is kept. -/
def seatAt (tell : Event → Act Session Unit) (place : Nat) : AnalysisSeat Session where
  tell := tell
  read session := session.analyses[place]?.getD default
  write analysis session := { session with analyses := session.analyses.set place analysis }

/-- The analysis that a name stands for. -/
def seatOf (tell : Event → Act Session Unit) (handle : String) :
    Act Session (AnalysisSeat Session) := do
  return seatAt tell (← placeOf (← Act.rest).analyzers handle)

/-! ## Mounts -/

/-- The state of a mount. -/
def mountState (place : Nat) : Act Session Response := do
  let some mount ← Act.mount? place | return .nothing
  return .mount mount.mounted mount.scopeId ((← get).mountedScope? mount)

/-- The kind of scope with exactly the given written form. -/
def scopeKindOf (text : String) : Act Session ScopeKind :=
  match ScopeKind.all.find? fun kind => kind.tag == text with
  | some kind => pure kind
  | none => Act.fail (.unknownScopeKind text)

/-- Mounts the scope of a node and gives the mount a name. -/
def mount (tell : Event → Act Session Unit) (document : String) (request : MountRequest) :
    Act Session Nat := do
  let kind ← scopeKindOf request.kind
  let symbols ← request.symbols.mapM fun draft => Act.ofChecked draft.read
  let place ← Act.mountScope tell document request.nodeId kind request.parentId symbols
    request.enter
  Act.modifyRest fun session =>
    { session with mounts := session.mounts.insert request.handle place }
  return place

/-! ## Bindings -/

/-- The state of a binding. -/
def bindingState (place : Nat) : Act Session Response := do
  let some binding ← Act.binding? place | return .nothing
  return .binding binding.name binding.scopeId

/-- Makes a binding and gives it a name. -/
def bind (document : String) (request : BindingRequest) : Act Session Nat := do
  let place ← Act.addBinding request.space document request.scopeId
  Act.modifyRest fun session =>
    { session with bindings := session.bindings.insert request.handle place }
  return place

/-- Parameters are checked one by one before anything else is done. -/
def checkParameters (fields : Fields) : Act Session Unit := do
  if let some (.list parameters) := Json.entry? "parameters" fields then
    for parameter in parameters do
      discard (Act.ofChecked (Parameter.read parameter))

/-- The symbol of a binding with some fields. -/
def draftOf (space : Namespace) (fields : Fields) (scopeId : Option String) (name : String) :
    SymbolDraft :=
  ⟨space == .functions,
    .object (Json.putEntry "name" (.text name)
      (Json.putEntry "scope_id" (.ofText? scopeId) fields))⟩

/-- Brings a binding in step with a name and some fields. -/
def sync
    (tell : Event → Act Session Unit)
    (handle : String)
    (name : Option String)
    (fields : Fields) :
    Act Session Response := do
  let place ← bindingPlace handle
  checkParameters fields
  let space := ((← Act.binding? place).map Binding.space).getD .vars
  let stored ← Act.sync tell place name fun scopeId wanted =>
    (draftOf space fields scopeId wanted).read
  return .reply (.symbol stored)

/-! ## Nodes -/

/-- The surroundings of a node in a scope. -/
def contextAt
    (document : String)
    (scopeId : Option String)
    (feeds : Feeds) :
    Act Session SocketContext := do
  Act.ofTree (SocketContext.ofRegistry (← Act.registry) document scopeId feeds)

/-- Checks a connection between two nodes in one scope. -/
def connect (context : SocketContext) (source target : ConnectionEnd) : Act Session Response := do
  Act.note (Palette.standard.socketNotices source.kind source.stored)
  Act.note (Palette.standard.socketNotices target.kind target.stored)
  return .connection (Palette.standard.checkConnection
    source.kind source.stored source.handle context
    target.kind target.stored target.handle context)

/-- A graph that was handed over. -/
def graphOf (data : Json) : Act Session Graph :=
  match Graph.ofJson Graph.memoryPath data with
  | .ok graph => pure graph
  | .error problem => Act.fail (.problem problem)

/-- The kinds that an analysis knows; without any it knows all. -/
def paletteOf (kinds : Option (List String)) : Palette :=
  match kinds with
  | none => .standard
  | some ids => (Palette.ofIds ids).orStandard

/-- Keeps a new analysis under a name. -/
def addAnalysis (handle : String) (analysis : Analysis) : Act Session Unit :=
  Act.modifyRest fun session =>
    { session with
      analyses := session.analyses ++ [analysis]
      analyzers := session.analyzers.insert handle session.analyses.length }

/-! ## Blocks -/

/-- Carries out the steps of a block.  The answer also tells how much was logged before them. -/
def inside
    (answers : List Request → Act Session (List Answer))
    (steps : List Request)
    (fails : Bool)
    (entered : Option Bool) :
    Act Session Response := do
  let opening := (← get).notices.length
  return .block fails entered opening (← answers steps)

/-- Takes hold of something, carries out steps, and lets go of it. -/
def block
    (tell : Event → Act Session Unit)
    (answers : List Request → Act Session (List Answer))
    (document : String)
    (held : Held)
    (steps : List Request)
    (fails : Bool) :
    Act Session Response := do
  match held with
  | .mount request =>
    let place ← mount tell document request
    let response ← inside answers steps fails none
    Act.unmount tell place
    return response
  | .binding request =>
    let place ← bind document request
    let response ← inside answers steps fails none
    Act.release tell place
    return response
  | .analysis handle =>
    let seat ← seatOf tell handle
    let response ← inside answers steps fails none
    seat.close
    return response
  | .scope scopeId =>
    Act.withScope tell document scopeId fun entered =>
      inside answers steps fails (some entered)

/-! ## Requests -/

/-- Carries out an operation of the registry whose result is a symbol. -/
def symbolChange
    (tell : Event → Act Session Unit)
    (operation : Registry → Change (Option Symbol)) :
    Act Session Response := do
  return .reply (.symbol (← Act.perform tell operation))

/-- Carries out a request. -/
def carryOut
    (tell : Event → Act Session Unit)
    (answers : List Request → Act Session (List Answer)) :
    Request → Act Session Response
  | .ask document question => do
    return .reply (← Act.ofTree ((← Act.registry).reply document question))
  | .add document space draft => do
    let symbol ← Act.ofChecked draft.read
    symbolChange tell fun registry => registry.declare space document symbol
  | .revise document space name scopeId fields =>
    symbolChange tell fun registry => registry.revise space document name scopeId fields
  | .remove document space name scopeId =>
    symbolChange tell fun registry => registry.remove space document name scopeId
  | .clearSymbols document space => do
    Act.perform tell fun registry => registry.clearSymbols space document
    return .nothing
  | .clearDocument document => do
    Act.perform tell fun registry => registry.clearDocument document
    return .nothing
  | .clearAll => do
    Act.clearAll tell
    return .nothing
  | .createScope document data => do
    let scope ← Act.ofChecked (Scope.read data)
    let watch ← Act.createScope tell document scope
    return .reply (.scope (← Act.followed? watch))
  | .destroyScope _ none => return .reply (.texts [])
  | .destroyScope document (some scopeId) => do
    let removed ← Act.perform tell fun registry => registry.destroyScope document scopeId
    return .reply (.texts removed)
  | .enterScope document scopeId => do
    let entered ← Act.perform tell fun registry => registry.enterScope document scopeId
    return .reply (.flag entered)
  | .exitScope _ none => return .reply (.flag false)
  | .exitScope document (some scopeId) => do
    let left ← Act.perform tell fun registry => registry.exitScope document scopeId
    return .reply (.flag left)
  | .setParent document scopeId parentId => do
    match scopeId, (← Act.registry).scopes.has document scopeId with
    | some id, true =>
      modify fun workspace =>
        workspace.adopt
          ({ workspace.registry with
              scopes := workspace.registry.scopes.setParent document id parentId }.unchanged () [])
      return .nothing
    | _, _ => Act.fail .missingScope
  | .dump document => do
    return .snapshot ((← Act.registry).snapshot document (← Act.rest).subscribed.length)
  | .subscribe handle document fails dismissals script => do
    Act.modifyRest fun session =>
      session.subscribe ⟨handle, document, fails, dismissals, script⟩
    return .nothing
  | .unsubscribe handle => do
    Act.modifyRest fun session => session.dismiss handle
    return .nothing
  | .mount document request => do
    mountState (← mount tell document request)
  | .mountState handle => do
    mountState (← mountPlace handle)
  | .mountDeclare handle draft => do
    let place ← mountPlace handle
    return .reply (.symbol (← Act.declareIn tell place (← Act.ofChecked draft.read)))
  | .unmount handle => do
    Act.unmount tell (← mountPlace handle)
    return .nothing
  | .bind document request => do
    discard (bind document request)
    return .nothing
  | .sync handle name fields => sync tell handle name fields
  | .moveTo handle scopeId => do
    let place ← bindingPlace handle
    Act.moveTo tell place scopeId
    bindingState place
  | .bindingState handle => do
    bindingState (← bindingPlace handle)
  | .release handle => do
    Act.release tell (← bindingPlace handle)
    return .nothing
  | .block document held steps fails => block tell answers document held steps fails
  | .sockets document kind stored scopeId feeds => do
    let context ← contextAt document scopeId feeds
    Act.note (NodeView.notices .standard kind stored)
    return .node (.of .standard kind stored context)
  | .connect document scopeId feeds source target => do
    connect (← contextAt document scopeId feeds) source target
  | .analyzer document handle graph kinds => do
    addAnalysis handle (.prepare (← graphOf graph) document (paletteOf kinds))
    return .nothing
  | .analyze handle => do
    return .report (← (← seatOf tell handle).analyze)
  | .close handle => do
    (← seatOf tell handle).close
    return .nothing
  | .nodeVisible handle nodeId => do
    let (vars, functions) ← (← seatOf tell handle).visible nodeId
    return .visible vars functions
  | .nodeComplete handle nodeId fragment filter source => do
    return .reply (.names (← (← seatOf tell handle).complete nodeId fragment filter source))

/-! ## Answers -/

/-- Begins to collect events and notices anew. -/
def collectAnew : Act Session Unit :=
  modify fun workspace =>
    { workspace with notices := [], rest := { workspace.rest with told := [] } }

/-- Goes on with the collection of another workspace. -/
def resume (outer : Workspace Session) : Act Session Unit :=
  modify fun workspace =>
    { workspace with
      notices := outer.notices
      rest := { workspace.rest with told := outer.rest.told } }

/-- Carries out a request, and answers with its outcome and with what happened on the way. -/
def answer (run : Request → Act Session Response) (request : Request) : Act Session Answer := do
  let outer ← get
  collectAnew
  let outcome ← tryCatch (Except.ok <$> run request) fun failure => pure (.error failure)
  let after ← get
  resume outer
  return match outcome with
    | .ok response => .done response after.rest.told after.notices
    | .error failure => .failed failure after.rest.told after.notices

/-- Carries out a request in which requests are nested at most so deep. -/
def run : Nat → Request → Act Session Response
  | 0, _ => pure .nothing
  | fuel + 1, request =>
    carryOut (publish (run fuel)) (fun steps => steps.mapM (answer (run fuel))) request

/-- The answers to some requests, carried out one after the other in a fresh session. -/
def answers (requests : List Request) : List Answer :=
  let activity : Act Session (List Answer) :=
    requests.mapM (answer (run (Request.totalSize requests)))
  match (Id.run ((ExceptT.run activity).run (Workspace.fresh fresh))).1 with
  | .ok found => found
  | .error _ => []

end LuauNodes.Session
