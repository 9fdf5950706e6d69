import LuauNodes.Proofs.Graph.AnalysisAgreement
import LuauNodes.Session.Run

/-!
# Requests that agree

Besides telling events and answering the steps of a block, a request changes a session
in few ways: it gives names, it writes analyses, it subscribes a listener, and it ends
a subscription.  In sessions of a sort that endures this, a request comes to the same
however events are told and steps are answered, if only these agree.
-/

namespace LuauNodes.Session

open Act

/-- What requests do to a session besides telling events leaves it in a sort. -/
structure Enduring (Kept : Session → Prop) : Prop where
  named : ∀ session mounts bindings analyzers analyses, Kept session →
    Kept { session with
      mounts := mounts
      bindings := bindings
      analyzers := analyzers
      analyses := analyses }
  subscribed : ∀ session listener, Kept session → Kept (session.subscribe listener)
  dismissed : ∀ session handle, Kept session → Kept (session.dismiss handle)

variable {Kept : Session → Prop}

/-! ## Parts of requests that tell nobody -/

theorem steady_placeOf (names : OrderedMap String Nat) (handle : String) :
    Steady Kept (placeOf names handle) := by
  unfold placeOf
  cases names.get? handle with
  | none => exact steady_fail _
  | some place => exact steady_pure place

theorem steady_mountPlace (handle : String) : Steady Kept (mountPlace handle) :=
  steady_rest.bind fun session => steady_placeOf session.mounts handle

theorem steady_bindingPlace (handle : String) : Steady Kept (bindingPlace handle) :=
  steady_rest.bind fun session => steady_placeOf session.bindings handle

theorem steady_mountState (place : Nat) : Steady Kept (mountState place) := by
  refine (steady_mount? place).bind fun found => ?_
  cases found with
  | none => exact steady_pure _
  | some mount => exact steady_get.bind fun _ => steady_pure _

theorem steady_scopeKindOf (text : String) : Steady Kept (scopeKindOf text) := by
  unfold scopeKindOf
  split
  · exact steady_pure _
  · exact steady_fail _

theorem steady_bindingState (place : Nat) : Steady Kept (bindingState place) := by
  refine (steady_binding? place).bind fun found => ?_
  cases found with
  | none => exact steady_pure _
  | some binding => exact steady_pure _

theorem steady_checkParameters (fields : Record.Fields) : Steady Kept (checkParameters fields) := by
  unfold checkParameters
  split
  · exact (Agree.forIn fun _ => (steady_ofChecked _).discard).bind fun _ => steady_pure ()
  · exact steady_pure ()

theorem steady_contextAt (document : String) (scopeId : Option String) (feeds : Feeds) :
    Steady Kept (contextAt document scopeId feeds) :=
  steady_registry.bind fun _ => steady_ofTree _

theorem steady_connect (context : SocketContext) (source target : ConnectionEnd) :
    Steady Kept (connect context source target) :=
  (steady_note _).bind fun _ => (steady_note _).bind fun _ => steady_pure _

theorem steady_graphOf (data : Json) : Steady Kept (graphOf data) := by
  unfold graphOf
  split
  · exact steady_pure _
  · exact steady_fail _

/-! ## Requests -/

section Tells

variable {tell other : Event → Act Session Unit}
variable {answers another : List Request → Act Session (List Answer)}

theorem Enduring.addAnalysis
    (enduring : Enduring Kept)
    (handle : String)
    (analysis : Analysis) :
    Steady Kept (addAnalysis handle analysis) :=
  steady_modifyRest fun session kept => enduring.named session _ _ _ _ kept

theorem Enduring.bind
    (enduring : Enduring Kept)
    (document : String)
    (request : BindingRequest) :
    Steady Kept (bind document request) :=
  (steady_addBinding _ _ _).bind fun place =>
    Agree.bind (steady_modifyRest fun session kept => enduring.named session _ _ _ _ kept)
      fun _ => steady_pure place

theorem Enduring.seatAt
    (enduring : Enduring Kept)
    (tells : ∀ event, Agree Kept (tell event) (other event))
    (place : Nat) :
    (seatAt tell place).TellsAlike other Kept where
  tells := tells
  writes := fun session _ kept => enduring.named session _ _ _ _ kept

/-- What is asked of an analysis that a name stands for is asked of the seat at some place. -/
theorem agree_seatOf
    {α : Type}
    {ask askToo : AnalysisSeat Session → Act Session α}
    (handle : String)
    (asked : ∀ place,
      Agree Kept (ask (Session.seatAt tell place)) (askToo (Session.seatAt other place))) :
    Agree Kept (seatOf tell handle >>= ask) (seatOf other handle >>= askToo) := by
  unfold seatOf
  simp only [bind_assoc, pure_bind]
  exact steady_rest.bind fun session => (steady_placeOf session.analyzers handle).bind asked

theorem agree_inside
    (steps : List Request)
    (fails : Bool)
    (entered : Option Bool)
    (answered : Agree Kept (answers steps) (another steps)) :
    Agree Kept (inside answers steps fails entered) (inside another steps fails entered) :=
  steady_get.bind fun _ => answered.bind fun _ => steady_pure _

variable (tells : ∀ event, Agree Kept (tell event) (other event))
include tells

theorem agree_sync (handle : String) (name : Option String) (fields : Record.Fields) :
    Agree Kept (sync tell handle name fields) (sync other handle name fields) :=
  (steady_bindingPlace handle).bind fun place => (steady_checkParameters fields).bind fun _ =>
    (steady_binding? place).bind fun _ => (Agree.sync tells place name _).bind fun _ =>
      steady_pure _

theorem agree_symbolChange (operation : Registry → Change (Option Symbol)) :
    Agree Kept (symbolChange tell operation) (symbolChange other operation) :=
  (Agree.perform tells operation).bind fun _ => steady_pure _

theorem Enduring.mount
    (enduring : Enduring Kept)
    (document : String)
    (request : MountRequest) :
    Agree Kept (mount tell document request) (mount other document request) :=
  (steady_scopeKindOf request.kind).bind fun _ =>
    Agree.bind (Agree.mapM fun _ => steady_ofChecked _) fun _ =>
      (Agree.mountScope tells _ _ _ _ _ _).bind fun place =>
        Agree.bind (steady_modifyRest fun session kept => enduring.named session _ _ _ _ kept)
          fun _ => steady_pure place

theorem Enduring.block
    (enduring : Enduring Kept)
    (document : String)
    (held : Held)
    (steps : List Request)
    (fails : Bool)
    (answered : Agree Kept (answers steps) (another steps)) :
    Agree Kept (block tell answers document held steps fails)
      (block other another document held steps fails) := by
  cases held with
  | mount request =>
      exact (enduring.mount tells document request).bind fun place =>
        (agree_inside steps fails none answered).bind fun response =>
          (Agree.unmount tells place).bind fun _ => steady_pure response
  | binding request =>
      exact (enduring.bind document request).bind fun place =>
        (agree_inside steps fails none answered).bind fun response =>
          (Agree.release tells place).bind fun _ => steady_pure response
  | analysis handle =>
      refine agree_seatOf handle fun place => ?_
      exact (agree_inside steps fails none answered).bind fun response =>
        (enduring.seatAt tells place).close.bind fun _ => steady_pure response
  | scope scopeId =>
      exact Agree.withScope tells document scopeId fun entered =>
        agree_inside steps fails (some entered) answered

/-- A request comes to the same however events are told and steps are answered, if these agree. -/
theorem Enduring.carryOut
    (enduring : Enduring Kept)
    (answered : ∀ steps, Agree Kept (answers steps) (another steps))
    (request : Request) :
    Agree Kept (carryOut tell answers request) (carryOut other another request) := by
  cases request with
  | ask document question =>
      exact steady_registry.bind fun _ => (steady_ofTree _).bind fun _ => steady_pure _
  | add document space draft =>
      exact (steady_ofChecked _).bind fun _ => agree_symbolChange tells _
  | revise document space name scopeId fields => exact agree_symbolChange tells _
  | remove document space name scopeId => exact agree_symbolChange tells _
  | clearSymbols document space =>
      exact (Agree.perform tells _).bind fun _ => steady_pure _
  | clearDocument document => exact (Agree.perform tells _).bind fun _ => steady_pure _
  | clearAll => exact (Agree.clearAll tells).bind fun _ => steady_pure _
  | createScope document data =>
      exact (steady_ofChecked _).bind fun scope => (Agree.createScope tells document scope).bind
        fun watch => (steady_followed? watch).bind fun _ => steady_pure _
  | destroyScope document scopeId =>
      cases scopeId with
      | none => exact steady_pure _
      | some scopeId => exact (Agree.perform tells _).bind fun _ => steady_pure _
  | enterScope document scopeId => exact (Agree.perform tells _).bind fun _ => steady_pure _
  | exitScope document scopeId =>
      cases scopeId with
      | none => exact steady_pure _
      | some scopeId => exact (Agree.perform tells _).bind fun _ => steady_pure _
  | setParent document scopeId parentId =>
      refine steady_registry.bind fun registry => ?_
      split
      · exact Agree.bind (steady_modify_of_rest fun _ => rfl) fun _ => steady_pure _
      · exact steady_fail _
  | dump document =>
      exact steady_registry.bind fun _ => steady_rest.bind fun _ => steady_pure _
  | subscribe handle document fails dismissals script =>
      exact Agree.bind (steady_modifyRest fun session => enduring.subscribed session _)
        fun _ => steady_pure _
  | unsubscribe handle =>
      exact Agree.bind (steady_modifyRest fun session => enduring.dismissed session handle)
        fun _ => steady_pure _
  | mount document request => exact (enduring.mount tells document request).bind steady_mountState
  | mountState handle => exact (steady_mountPlace handle).bind steady_mountState
  | mountDeclare handle draft =>
      exact (steady_mountPlace handle).bind fun place => (steady_ofChecked _).bind fun symbol =>
        (Agree.declareIn tells place symbol).bind fun _ => steady_pure _
  | unmount handle =>
      exact (steady_mountPlace handle).bind fun place =>
        (Agree.unmount tells place).bind fun _ => steady_pure _
  | bind document request =>
      exact (enduring.bind document request).discard.bind fun _ => steady_pure _
  | sync handle name fields => exact agree_sync tells handle name fields
  | moveTo handle scopeId =>
      exact (steady_bindingPlace handle).bind fun place =>
        (Agree.moveTo tells place scopeId).bind fun _ => steady_bindingState place
  | bindingState handle => exact (steady_bindingPlace handle).bind steady_bindingState
  | release handle =>
      exact (steady_bindingPlace handle).bind fun place =>
        (Agree.release tells place).bind fun _ => steady_pure _
  | block document held steps fails =>
      exact enduring.block tells document held steps fails (answered steps)
  | sockets document kind stored scopeId feeds =>
      exact (steady_contextAt document scopeId feeds).bind fun _ =>
        (steady_note _).bind fun _ => steady_pure _
  | connect document scopeId feeds source target =>
      exact (steady_contextAt document scopeId feeds).bind fun context =>
        steady_connect context source target
  | analyzer document handle graph kinds =>
      exact (steady_graphOf graph).bind fun _ =>
        (enduring.addAnalysis handle _).bind fun _ => steady_pure _
  | analyze handle =>
      exact agree_seatOf handle fun place =>
        (enduring.seatAt tells place).analyze.bind fun _ => steady_pure _
  | close handle =>
      exact agree_seatOf handle fun place =>
        (enduring.seatAt tells place).close.bind fun _ => steady_pure _
  | nodeVisible handle nodeId =>
      exact agree_seatOf handle fun place =>
        ((enduring.seatAt tells place).visible nodeId).bind fun _ => steady_pure _
  | nodeComplete handle nodeId fragment filter source =>
      exact agree_seatOf handle fun place =>
        ((enduring.seatAt tells place).complete nodeId fragment filter source).bind fun _ =>
          steady_pure _

end Tells

end LuauNodes.Session
