import LuauNodes.Proofs.Graph.Accounting
import LuauNodes.Proofs.Workspace.Keeping

/-!
# Analyses that account for what they hold

An analysis that is under way goes on to account for the scopes and the global
symbols of its document.  Resolving sockets only looks at the workspace; bringing
a binding in step removes its former entry before it stores the new one; and an
owner that is mounted again has its scope where it was.
-/

namespace LuauNodes

/-! ## Activities that only look -/

namespace Act

variable {η α β : Type}

/-- Whatever becomes of an activity, it changes nothing but the log. -/
def Looks (activity : Act η α) : Prop :=
  ∀ before, ∃ notices, (activity.outcome before).2 = { before with notices := notices }

theorem looks_pure (value : α) : Looks (pure value : Act η α) := fun before => ⟨before.notices, rfl⟩

theorem looks_registry : Looks (registry : Act η Registry) := fun before => ⟨before.notices, rfl⟩

theorem looks_rest : Looks (rest : Act η η) := fun before => ⟨before.notices, rfl⟩

theorem looks_note (notices : List Notice) : Looks (note notices : Act η Unit) :=
  fun before => ⟨before.notices ++ notices, rfl⟩

theorem looks_ofTree (answer : Except TreeFault α) : Looks (ofTree answer : Act η α) := by
  intro before
  cases answer <;> exact ⟨before.notices, rfl⟩

theorem Looks.bind
    {activity : Act η α}
    {next : α → Act η β}
    (first : Looks activity)
    (second : ∀ answer, Looks (next answer)) :
    Looks (activity >>= next) := by
  intro before
  obtain ⟨notices, same⟩ := first before
  rw [outcome_bind]
  rcases ended : activity.outcome before with ⟨failure | answer, middle⟩
  · rw [ended] at same
    exact ⟨notices, same⟩
  · rw [ended] at same
    obtain ⟨later, sameStill⟩ := second answer middle
    dsimp only at same
    rw [same] at sameStill
    rw [same]
    exact ⟨later, sameStill⟩

theorem Looks.mapM
    {items : List α}
    {body : α → Act η β}
    (round : ∀ item, Looks (body item)) :
    Looks (items.mapM body) := by
  induction items with
  | nil =>
      rw [List.mapM_nil]
      exact looks_pure []
  | cons item rest ih =>
      rw [List.mapM_cons]
      exact (round item).bind fun first => ih.bind fun others => looks_pure (first :: others)

theorem Looks.ensures
    {activity : Act η α}
    (looks : Looks activity)
    {before : Workspace η}
    {post : α → Workspace η → Prop}
    (ended : activity.Ensures before post) :
    activity.Ensures before fun answer after =>
      post answer after ∧ ∃ notices, after = { before with notices := notices } := by
  obtain ⟨answer, after, ends, holds⟩ := ended
  have same := looks before
  rw [ends] at same
  exact ⟨answer, after, ends, holds, same⟩

end Act

namespace AnalysisSeat

open Act

variable {η : Type} {seat : AnalysisSeat η} {Calm : η → Prop}
variable {base : Analysis} {members : Membership} {plan : Layout}
variable {before : Workspace η}

theorem looks_current : Looks seat.current := looks_rest.bind fun _ => looks_pure _

theorem looks_context (nodeId : String) (feeds : GraphFeeds) : Looks (seat.context nodeId feeds) :=
  looks_current.bind fun _ => looks_registry.bind fun _ => looks_ofTree _

theorem looks_resolve (feeds : GraphFeeds) (node : GraphNode) : Looks (seat.resolve feeds node) :=
  (looks_context node.id feeds).bind fun _ => looks_current.bind fun _ =>
    Looks.bind (looks_note _) fun _ => looks_pure _

theorem looks_resolveAll (feeds : GraphFeeds) : Looks (seat.resolveAll feeds) :=
  looks_current.bind fun _ =>
    (Looks.mapM fun node => looks_resolve feeds node).bind fun _ => looks_pure _

theorem looks_feedsAfter (feeds : GraphFeeds) : Looks (seat.feedsAfter feeds) :=
  (looks_resolveAll feeds).bind fun _ => looks_current.bind fun _ => looks_pure _

/-! ## Changes of the registry -/

/-- A registry was taken over and told of, and an analysis can tell no other difference. -/
structure Adopts
    (seat : AnalysisSeat η)
    (Calm : η → Prop)
    (before : Workspace η)
    (registry : Registry)
    (after : Workspace η) :
    Prop where
  registry : after.registry = registry
  mounts : after.mounts = before.mounts
  bindings : after.bindings = before.bindings
  calm : Calm after.rest
  read : seat.read after.rest = seat.read before.rest

/-- An analysis is kept by listeners that look on. -/
theorem Attended.looksOn_kept (attended : seat.Attended Calm) (before : Workspace η) :
    LooksOn seat.tell fun rest => Calm rest ∧ seat.read rest = seat.read before.rest :=
  attended.looksOn (seat.read before.rest)

theorem Adopts.of_adopted
    {registry : Registry}
    {after : Workspace η}
    (adopted : Adopted (fun rest => Calm rest ∧ seat.read rest = seat.read before.rest) before
      registry after) :
    seat.Adopts Calm before registry after :=
  ⟨adopted.registry, adopted.mounts, adopted.bindings, adopted.calm.1, adopted.calm.2⟩

theorem Attended.ensures_perform
    {α : Type}
    (attended : seat.Attended Calm)
    (calm : Calm before.rest)
    (operation : Registry → Change α) :
    (perform seat.tell operation).Ensures before fun result after =>
      result = (operation before.registry).result ∧
        seat.Adopts Calm before (operation before.registry).registry after :=
  ((attended.looksOn_kept before).ensures_perform ⟨calm, rfl⟩ operation).mono
    fun _ _ ⟨result, adopted⟩ => ⟨result, .of_adopted adopted⟩

theorem Attended.ensures_createScope
    (attended : seat.Attended Calm)
    (calm : Calm before.rest)
    {document : String}
    {scope : Scope}
    {change : Change (Option Scope)}
    (created : before.registry.createScope document scope = .ok change) :
    (createScope seat.tell document scope).Ensures before fun watch after =>
      watch.isSome = change.result.isSome ∧ seat.Adopts Calm before change.registry after :=
  ((attended.looksOn_kept before).ensures_createScope ⟨calm, rfl⟩ created).mono
    fun _ _ ⟨followed, adopted⟩ => ⟨followed, .of_adopted adopted⟩

/-! ## Holding -/

/-- An analysis that is under way has changed nothing but its document, and accounts for the global
symbols in it by the bindings at some places. -/
structure Holding
    (seat : AnalysisSeat η)
    (Calm : η → Prop)
    (base : Analysis)
    (members : Membership)
    (plan : Layout)
    (start : Registry)
    (places : List Nat)
    (workspace : Workspace η) :
    Prop extends seat.Underway Calm base members plan workspace where
  confined : Registry.Confined base.document start workspace.registry
  bound : Registry.Bound base.document places workspace.bindings workspace.registry

variable {start : Registry} {place : Nat} {places : List Nat} {binding : Binding}

theorem Holding.transfer
    {after : Workspace η}
    (holding : seat.Holding Calm base members plan start places before)
    (registry : after.registry = before.registry)
    (bindings : after.bindings = before.bindings)
    (rest : after.rest = before.rest) :
    seat.Holding Calm base members plan start places after where
  toUnderway := holding.toUnderway.transfer registry rest
  confined := registry ▸ holding.confined
  bound := by
    rw [registry, bindings]
    exact holding.bound

/-- A change of the registry that a change of the bindings makes up for. -/
theorem Holding.adopt
    {later : Layout}
    {registry : Registry}
    {middle after : Workspace η}
    (holding : seat.Holding Calm base members plan start places before)
    (adopts : seat.Adopts Calm before registry middle)
    (laidOut : registry.LaidOut base.document later)
    (confined : Registry.Confined base.document start registry)
    (bound : Registry.Bound base.document places after.bindings registry)
    (same : after.registry = middle.registry)
    (rest : after.rest = middle.rest) :
    seat.Holding Calm base members later start places after where
  calm := rest ▸ adopts.calm
  graph := by rw [rest, adopts.read, holding.graph]
  document := by rw [rest, adopts.read, holding.document]
  palette := by rw [rest, adopts.read, holding.palette]
  members := by rw [rest, adopts.read, holding.members]
  laidOut := by
    rw [same, adopts.registry]
    exact laidOut
  confined := by
    rw [same, adopts.registry]
    exact confined
  bound := by
    rw [same, adopts.registry]
    exact bound

theorem Holding.update
    {later : Membership}
    (attended : seat.Attended Calm)
    (holding : seat.Holding Calm base members plan start places before)
    (f : Analysis → Analysis)
    (graph : ∀ held, (f held).graph = held.graph)
    (document : ∀ held, (f held).document = held.document)
    (palette : ∀ held, (f held).palette = held.palette)
    (membership : (f (seat.read before.rest)).members = later) :
    seat.Holding Calm base later plan start places
      { before with rest := seat.write (f (seat.read before.rest)) before.rest } where
  toUnderway := holding.toUnderway.update attended f graph document palette membership
  confined := holding.confined
  bound := holding.bound

/-! ## Declarations -/

/-- The entry of a binding is removed, and the binding keeps none. -/
theorem Holding.ensures_drop
    (attended : seat.Attended Calm)
    (holding : seat.Holding Calm base members plan start places before)
    {old : String}
    (found : before.bindings[place]? = some binding)
    (own : binding.document = base.document)
    (named : binding.name = some old) :
    (do
      drop seat.tell binding old
      rename place none : Act η Unit).Ensures before fun _ after =>
        seat.Holding Calm base members plan start places after ∧
          seat.read after.rest = seat.read before.rest ∧ after.mounts = before.mounts ∧
          after.bindings = Registry.renameAt before.bindings place none := by
  simp only [drop, ensures_bind, ensures_discard]
  refine (attended.ensures_perform holding.calm _).mono ?_
  rintro _ middle ⟨-, adopts⟩
  rw [own] at adopts
  refine (ensures_modify _ _).mpr ⟨?_, adopts.read, adopts.mounts, ?_⟩
  · refine holding.adopt adopts (holding.laidOut.remove _ _ _ _) (holding.confined.remove _ _ _)
      ?_ rfl rfl
    show Registry.Bound _ _ (Registry.renameAt middle.bindings place none) _
    rw [adopts.bindings]
    exact holding.bound.remove found named
  · show Registry.renameAt middle.bindings place none = _
    rw [adopts.bindings]

/-- A symbol is stored for a binding, which takes over its name. -/
theorem Holding.ensures_store
    (attended : seat.Attended Calm)
    (holding : seat.Holding Calm base members plan start places before)
    {symbol : Symbol}
    (among : place ∈ places)
    (found : before.bindings[place]? = some binding)
    (own : binding.document = base.document)
    (inside : symbol.scopeId = binding.scopeId)
    (visible : Text.isBlankText symbol.name = false)
    (same : ∀ old, binding.name = some old → old = symbol.name) :
    (store seat.tell place binding symbol).Ensures before fun _ after =>
      seat.Holding Calm base members plan start places after ∧ after.mounts = before.mounts ∧
        seat.read after.rest = seat.read before.rest := by
  simp only [store, ensures_bind]
  refine (attended.ensures_perform holding.calm _).mono ?_
  rintro _ middle ⟨rfl, adopts⟩
  rw [own] at adopts ⊢
  refine (ensures_modify _ _).mpr ((ensures_pure _ _).mpr ⟨?_, adopts.mounts, adopts.read⟩)
  refine holding.adopt adopts (holding.laidOut.declare _ _ _) (holding.confined.declare _ _)
    ?_ rfl rfl
  show Registry.Bound _ _ (Registry.renameAt middle.bindings place _) _
  rw [adopts.bindings]
  exact holding.bound.declare among found own inside visible same

/-- What is built for a name has the name without the blanks around it, in the given scope. -/
def Builds (name : Option String) (build : Option String → String → Symbol) : Prop :=
  ∀ wanted, Text.strip (name.getD "") = wanted → wanted.isEmpty = false → ∀ scopeId,
    (build scopeId wanted).name = wanted ∧ (build scopeId wanted).scopeId = scopeId

/-- Once a binding has no entry, or the wanted one, the wanted one is stored if there is any. -/
theorem Holding.ensures_storeWanted
    (attended : seat.Attended Calm)
    (holding : seat.Holding Calm base members plan start places before)
    (among : place ∈ places)
    (found : before.bindings[place]? = some binding)
    (own : binding.document = base.document)
    {name : Option String}
    (same : ∀ old, binding.name = some old → old = Text.strip (name.getD ""))
    {build : Option String → String → Symbol}
    (builds : Builds name build) :
    (storeWanted seat.tell place (Text.strip (name.getD "")) fun scopeId wanted =>
      .ok (build scopeId wanted)).Ensures before fun _ after =>
        seat.Holding Calm base members plan start places after ∧ after.mounts = before.mounts ∧
          seat.read after.rest = seat.read before.rest := by
  unfold storeWanted
  split
  · exact (ensures_pure _ _).mpr ⟨holding, rfl, rfl⟩
  · rename_i kept
    have visible := Text.isBlankText_strip (Bool.eq_false_iff.mpr kept)
    obtain ⟨named, inside⟩ := builds _ rfl (Bool.eq_false_iff.mpr kept) binding.scopeId
    simp only [ensures_bind, ensures_binding?, ensures_pure, found, ofChecked]
    refine holding.ensures_store attended among found own inside ?_ ?_
    · rw [named]
      exact visible
    · rw [named]
      exact same

/-- A binding that is brought in step keeps the one entry that it has. -/
theorem Holding.ensures_sync
    (attended : seat.Attended Calm)
    (holding : seat.Holding Calm base members plan start places before)
    (among : place ∈ places)
    (name : Option String)
    {build : Option String → String → Symbol}
    (builds : Builds name build) :
    (sync seat.tell place name fun scopeId wanted => .ok (build scopeId wanted)).Ensures before
      fun _ after => seat.Holding Calm base members plan start places after ∧
        after.mounts = before.mounts ∧ seat.read after.rest = seat.read before.rest := by
  obtain ⟨binding, found, own⟩ := holding.bound.own place among
  rw [sync_eq, ensures_bind, ensures_binding?, found]
  dsimp only
  cases named : binding.name with
  | none =>
      refine holding.ensures_storeWanted attended among found own (fun old has => ?_) builds
      rw [named] at has
      cases has
  | some old =>
      dsimp only
      split
      · have dropped := holding.ensures_drop attended found own named
        rw [ensures_bind] at dropped
        rw [ensures_bind]
        refine dropped.mono fun _ middle renamed => ?_
        rw [ensures_bind]
        refine renamed.mono ?_
        rintro _ last ⟨holdingStill, read, mounts, bindings⟩
        have renamedAt : last.bindings[place]? = some { binding with name := none } := by
          rw [bindings, Registry.getElem?_renameAt, found, Option.map_some, if_pos rfl]
        refine (holdingStill.ensures_storeWanted attended among renamedAt own
          (fun _ none => by cases none) builds).mono ?_
        rintro _ after ⟨holdingAfter, mountsStill, readStill⟩
        exact ⟨holdingAfter, mountsStill.trans mounts, readStill.trans read⟩
      · rename_i kept
        refine holding.ensures_storeWanted attended among found own (fun other has => ?_) builds
        rw [named, Option.some.injEq] at has
        subst has
        simpa using kept

/-! ## Accounting -/

/-- An analysis that holds what its bindings keep and has mounted some owners. -/
structure Accounting
    (seat : AnalysisSeat η)
    (Calm : η → Prop)
    (base : Analysis)
    (members : Membership)
    (plan : Layout)
    (start : Registry)
    (done : List (GraphNode × ScopeKind))
    (workspace : Workspace η) :
    Prop extends seat.Holding Calm base members plan start
      (seat.read workspace.rest).declarations.values workspace where
  mounted : Graph.Mounted base.document done (seat.read workspace.rest).mounts workspace.mounts

variable {done : List (GraphNode × ScopeKind)}

theorem Accounting.of_holding
    {later : Membership}
    {after : Workspace η}
    (accounting : seat.Accounting Calm base members plan start done before)
    (holding : seat.Holding Calm base later plan start (seat.read before.rest).declarations.values
      after)
    (mounts : after.mounts = before.mounts)
    (mounted : (seat.read after.rest).mounts = (seat.read before.rest).mounts)
    (declared : (seat.read after.rest).declarations = (seat.read before.rest).declarations) :
    seat.Accounting Calm base later plan start done after where
  toHolding := by
    rw [declared]
    exact holding
  mounted := by
    rw [mounts, mounted]
    exact accounting.mounted

theorem Accounting.update
    {later : Membership}
    (attended : seat.Attended Calm)
    (accounting : seat.Accounting Calm base members plan start done before)
    (f : Analysis → Analysis)
    (graph : ∀ held, (f held).graph = held.graph)
    (document : ∀ held, (f held).document = held.document)
    (palette : ∀ held, (f held).palette = held.palette)
    (mounts : ∀ held, (f held).mounts = held.mounts)
    (declarations : ∀ held, (f held).declarations = held.declarations)
    (membership : (f (seat.read before.rest)).members = later) :
    seat.Accounting Calm base later plan start done
      { before with rest := seat.write (f (seat.read before.rest)) before.rest } := by
  have read := attended.read_write before.rest (f (seat.read before.rest)) accounting.calm
  exact accounting.of_holding
    (accounting.toHolding.update attended f graph document palette membership) rfl
    ((congrArg Analysis.mounts read).trans (mounts _))
    ((congrArg Analysis.declarations read).trans (declarations _))

theorem Accounting.noted
    (accounting : seat.Accounting Calm base members plan start done before)
    (notices : List Notice) :
    seat.Accounting Calm base members plan start done
      { before with notices := before.notices ++ notices } :=
  accounting.of_holding (accounting.toHolding.transfer rfl rfl rfl) rfl rfl rfl

theorem Looks.keeps_accounting
    {α : Type}
    {activity : Act η α}
    (looks : Looks activity)
    (keeps : Keeps (seat.Underway Calm base members plan) activity) :
    Keeps (seat.Accounting Calm base members plan start done) activity := by
  intro before accounting
  refine (looks.ensures (keeps before accounting.toUnderway)).mono ?_
  rintro _ after ⟨-, notices, rfl⟩
  exact accounting.of_holding (accounting.toHolding.transfer rfl rfl rfl) rfl rfl rfl

/-! ### Declaring nodes -/

/-- A binding that is made is listed, and keeps no entry yet. -/
theorem Accounting.ensures_bindingOf
    (attended : seat.Attended Calm)
    (accounting : seat.Accounting Calm base members plan start done before)
    (space : Namespace)
    (nodeId : String) :
    (seat.bindingOf space nodeId).Ensures before fun place after =>
      seat.Accounting Calm base members plan start done after ∧
        place ∈ (seat.read after.rest).declarations.values := by
  unfold bindingOf
  rw [ensures_bind, ensures_current]
  cases among : (seat.read before.rest).declarations.get? nodeId with
  | some place =>
      exact (ensures_pure _ _).mpr
        ⟨accounting, OrderedMap.mem_values_of_get?_eq_some among⟩
  | none =>
      dsimp only
      simp only [addBinding, ensures_bind, ensures_get, ensures_modify, ensures_pure,
        ensures_update]
      let f (held : Analysis) : Analysis :=
        { held with declarations := held.declarations.insert nodeId before.bindings.length }
      let declared := f (seat.read before.rest)
      have read : seat.read (seat.write declared before.rest) = declared :=
        attended.read_write before.rest declared accounting.calm
      have values : (seat.read (seat.write declared before.rest)).declarations.values =
          (seat.read before.rest).declarations.values ++ [before.bindings.length] := by
        rw [read]
        exact OrderedMap.values_insert_of_get?_eq_none among _
      have added : seat.Underway Calm base members plan
          { before with bindings := before.bindings ++ [⟨space,
            (seat.read before.rest).document, (seat.read before.rest).members.scopeOf nodeId,
            none⟩] } := accounting.toUnderway.transfer rfl rfl
      have underway := added.update attended f (fun _ => rfl) (fun _ => rfl) (fun _ => rfl)
        accounting.members
      refine ⟨⟨⟨underway, accounting.confined, ?_⟩, ?_⟩, ?_⟩
      · show Registry.Bound _ (seat.read (seat.write declared before.rest)).declarations.values _ _
        rw [values, accounting.document]
        exact accounting.bound.addBinding space _
      · show Graph.Mounted _ _ (seat.read (seat.write declared before.rest)).mounts _
        rw [read]
        exact accounting.mounted
      · show _ ∈ (seat.read (seat.write declared before.rest)).declarations.values
        rw [values]
        exact List.mem_append_right _ List.mem_cons_self

theorem name_boundSymbol
    (nodeId : String)
    (space : Namespace)
    (declared : Symbol)
    (scopeId : Option String)
    (name : String) :
    (boundSymbol nodeId space declared scopeId name).name = name ∧
      (boundSymbol nodeId space declared scopeId name).scopeId = scopeId := by
  unfold boundSymbol
  split <;> exact ⟨rfl, rfl⟩

theorem keeps_accounting_declareNode
    (attended : seat.Attended Calm)
    (space : Namespace)
    (feeds : GraphFeeds)
    (node : GraphNode) :
    Keeps (seat.Accounting Calm base members plan start done)
      (seat.declareNode space feeds node) := by
  unfold declareNode
  refine (Looks.keeps_accounting looks_current keeps_current).bind fun analysis => ?_
  cases analysis.palette.get? node.kind with
  | none => exact keeps_pure ()
  | some kind =>
      dsimp only
      split
      · exact keeps_pure ()
      · refine (Looks.keeps_accounting (looks_context _ _) (keeps_context node.id feeds)).bind
          fun context => ?_
        refine (Looks.keeps_accounting (looks_note _) (keeps_note _)).bind fun _ => ?_
        intro before accounting
        rw [ensures_bind]
        refine (accounting.ensures_bindingOf attended space node.id).mono ?_
        rintro place middle ⟨accountingStill, among⟩
        rw [ensures_bind, ensures_binding?]
        cases kind.declaredSymbol node.stored context with
        | none =>
            refine (ensures_discard _).mpr ((accountingStill.toHolding.ensures_sync attended among
              none fun wanted stripped kept => ?_).mono ?_)
            · subst stripped
              exact absurd kept (by decide)
            · rintro _ after ⟨holding, mounts, read⟩
              exact accountingStill.of_holding holding mounts (by rw [read]) (by rw [read])
        | some symbol =>
            refine (ensures_discard _).mpr ((accountingStill.toHolding.ensures_sync attended among
              (some symbol.name) fun wanted _ _ scopeId =>
                name_boundSymbol node.id _ symbol scopeId wanted).mono ?_)
            rintro _ after ⟨holding, mounts, read⟩
            exact accountingStill.of_holding holding mounts (by rw [read]) (by rw [read])

theorem keeps_accounting_declareAll
    (attended : seat.Attended Calm)
    (space : Namespace)
    (feeds : GraphFeeds) :
    Keeps (seat.Accounting Calm base members plan start done) (seat.declareAll space feeds) :=
  (Looks.keeps_accounting looks_current keeps_current).bind fun _ =>
    (Keeps.forIn fun node => keeps_accounting_declareNode attended space feeds node).bind
      fun _ => keeps_pure ()

end AnalysisSeat

end LuauNodes
