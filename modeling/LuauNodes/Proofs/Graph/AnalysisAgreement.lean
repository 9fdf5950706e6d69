import LuauNodes.Graph.Analysis
import LuauNodes.Proofs.Workspace.Agreement

/-!
# Analyses that agree

An analysis reaches its listeners only by telling events.  Under another way of
telling that agrees with its own, all that can be asked of it comes to the same,
and what it writes to its seat is the only thing that it does to what the user
keeps.
-/

namespace LuauNodes.AnalysisSeat

open Act

variable {η : Type}

/-- The same seat with another way of telling. -/
def telling (seat : AnalysisSeat η) (other : Event → Act η Unit) : AnalysisSeat η :=
  { seat with tell := other }

/-- While what the user keeps is of some sort, the seat tells events as the other way does, and what
is written to it leaves the sort. -/
structure TellsAlike
    (seat : AnalysisSeat η)
    (other : Event → Act η Unit)
    (Kept : η → Prop) :
    Prop where
  tells : ∀ event, Agree Kept (seat.tell event) (other event)
  writes : ∀ rest analysis, Kept rest → Kept (seat.write analysis rest)

variable {seat : AnalysisSeat η} {other : Event → Act η Unit} {Kept : η → Prop}

/-! ## Steps that tell nobody -/

theorem steady_current : Steady Kept seat.current :=
  steady_rest.bind fun rest => steady_pure (seat.read rest)

theorem steady_context (nodeId : String) (feeds : GraphFeeds) :
    Steady Kept (seat.context nodeId feeds) :=
  steady_current.bind fun _ => steady_registry.bind fun _ => steady_ofTree _

theorem steady_resolve (feeds : GraphFeeds) (node : GraphNode) :
    Steady Kept (seat.resolve feeds node) :=
  (steady_context node.id feeds).bind fun _ => steady_current.bind fun _ =>
    (steady_note _).bind fun _ => steady_pure _

theorem steady_resolveAll (feeds : GraphFeeds) : Steady Kept (seat.resolveAll feeds) :=
  steady_current.bind fun _ => (Agree.mapM (steady_resolve feeds)).bind fun _ => steady_pure _

theorem steady_feedsAfter (feeds : GraphFeeds) : Steady Kept (seat.feedsAfter feeds) :=
  (steady_resolveAll feeds).bind fun _ => steady_current.bind fun _ => steady_pure _

theorem steady_report : Steady Kept seat.report :=
  steady_current.bind fun _ => steady_registry.bind fun _ => steady_pure _

theorem steady_visibleFrom (space : Namespace) (nodeId : String) :
    Steady Kept (seat.visibleFrom space nodeId) :=
  steady_current.bind fun _ => steady_registry.bind fun _ => steady_ofTree _

namespace TellsAlike

variable (alike : seat.TellsAlike other Kept)
include alike

theorem update (f : Analysis → Analysis) : Steady Kept (seat.update f) :=
  steady_modifyRest fun rest => alike.writes rest _

theorem assign : Steady Kept seat.assign :=
  steady_current.bind fun _ => (alike.update _).bind fun _ => steady_note _

theorem bindingOf (space : Namespace) (nodeId : String) :
    Steady Kept (seat.bindingOf space nodeId) := by
  unfold AnalysisSeat.bindingOf
  refine steady_current.bind fun analysis => ?_
  cases analysis.declarations.get? nodeId with
  | some place => exact steady_pure place
  | none =>
      exact (steady_addBinding space _ _).bind fun place =>
        (alike.update _).bind fun _ => steady_pure place

/-! ## Steps that tell events -/

theorem mountOwner (owner : GraphNode) (kind : ScopeKind) :
    Agree Kept (seat.mountOwner owner kind) ((seat.telling other).mountOwner owner kind) := by
  unfold AnalysisSeat.mountOwner
  refine steady_current.bind fun analysis => ?_
  dsimp only
  cases analysis.palette.get? owner.kind with
  | none => exact steady_pure ()
  | some found =>
      refine steady_registry.bind fun registry => ?_
      -- Both ways the scope is mounted, in what is left of the scope that was wanted.
      refine Agree.ite ((alike.update _).bind fun _ => ?_) ?_
      all_goals exact (steady_note _).bind fun _ =>
        (Agree.mountScope alike.tells _ _ _ _ _ _).bind fun _ => alike.update _

theorem mountOwners (owners : List (GraphNode × ScopeKind)) :
    Agree Kept
      (forIn owners PUnit.unit fun owner _ => do
        seat.mountOwner owner.1 owner.2
        pure (ForInStep.yield PUnit.unit))
      (forIn owners PUnit.unit fun owner _ => do
        (seat.telling other).mountOwner owner.1 owner.2
        pure (ForInStep.yield PUnit.unit)) :=
  Agree.forIn fun owner => alike.mountOwner owner.1 owner.2

theorem declareNode (space : Namespace) (feeds : GraphFeeds) (node : GraphNode) :
    Agree Kept (seat.declareNode space feeds node)
      ((seat.telling other).declareNode space feeds node) := by
  unfold AnalysisSeat.declareNode
  refine steady_current.bind fun analysis => ?_
  dsimp only
  cases analysis.palette.get? node.kind with
  | none => exact steady_pure ()
  | some kind =>
      refine Agree.ite (steady_pure ()) ((steady_context node.id feeds).bind fun context => ?_)
      refine (steady_note _).bind fun _ => (alike.bindingOf space node.id).bind fun place => ?_
      refine (steady_binding? place).bind fun found => ?_
      cases kind.declaredSymbol node.stored context with
      | none => exact (Agree.sync alike.tells place none _).discard
      | some symbol => exact (Agree.sync alike.tells place (some symbol.name) _).discard

theorem declareAll (space : Namespace) (feeds : GraphFeeds) :
    Agree Kept (seat.declareAll space feeds) ((seat.telling other).declareAll space feeds) :=
  steady_current.bind fun _ =>
    (Agree.forIn fun node => alike.declareNode space feeds node).bind fun _ => steady_pure ()

theorem close : Agree Kept seat.close (seat.telling other).close := by
  refine steady_current.bind fun _ =>
    (Agree.forIn fun place => Agree.release alike.tells place).bind fun _ => ?_
  refine (alike.update _).bind fun _ => steady_current.bind fun _ => ?_
  exact (Agree.forIn fun place => Agree.unmount alike.tells place).bind fun _ => alike.update _

/-! ## What can be asked of an analysis -/

theorem analyze : Agree Kept seat.analyze (seat.telling other).analyze := by
  unfold AnalysisSeat.analyze
  refine steady_current.bind fun analysis => ?_
  extract_lets goesOn goesOnToo
  have agrees : ∀ done, Agree Kept (goesOn done) (goesOnToo done) := by
    intro done
    refine alike.assign.bind fun _ => steady_current.bind fun assigned => ?_
    refine (alike.mountOwners _).bind fun _ => ?_
    refine (alike.declareAll .functions ∅).bind fun _ => (steady_feedsAfter ∅).bind fun feeds => ?_
    refine (alike.declareAll .vars feeds).bind fun _ => (steady_feedsAfter ∅).bind fun feeds => ?_
    refine (steady_resolveAll feeds).bind fun _ => (alike.update _).bind fun _ => ?_
    exact steady_report.bind fun report => (steady_note _).bind fun _ => steady_pure report
  exact Agree.ite (alike.close.bind agrees) (agrees ())

theorem requireNode (nodeId : String) :
    Agree Kept (seat.requireNode nodeId) ((seat.telling other).requireNode nodeId) := by
  unfold AnalysisSeat.requireNode
  refine steady_current.bind fun analysis => ?_
  extract_lets goesOn goesOnToo
  have agrees : ∀ done, Agree Kept (goesOn done) (goesOnToo done) := fun _ =>
    Agree.ite alike.analyze.discard (steady_pure ())
  exact Agree.ite ((steady_fail _).bind agrees) (agrees ())

theorem visible (nodeId : String) :
    Agree Kept (seat.visible nodeId) ((seat.telling other).visible nodeId) :=
  (alike.requireNode nodeId).bind fun _ => (steady_visibleFrom .vars nodeId).bind fun _ =>
    (steady_visibleFrom .functions nodeId).bind fun _ => steady_pure _

theorem complete
    (nodeId fragment : String)
    (filter : Option Completion.TypeFilter)
    (source : Completion.Source) :
    Agree Kept (seat.complete nodeId fragment filter source)
      ((seat.telling other).complete nodeId fragment filter source) :=
  (alike.requireNode nodeId).bind fun _ => steady_current.bind fun _ =>
    steady_registry.bind fun _ => steady_ofTree _

end TellsAlike

end LuauNodes.AnalysisSeat
