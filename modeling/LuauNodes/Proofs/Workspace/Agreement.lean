import LuauNodes.Proofs.Workspace.Activities

/-!
# Activities that agree

Two activities agree while what the user of a workspace keeps is of some sort: there
they come to the same outcome, whether they fail or not, and leave things of that
sort.  An activity that agrees with itself keeps the sort whatever becomes of it.
Most activities reach their listeners only by telling events, so they agree with
themselves under another way of telling that agrees with the first.
-/

namespace LuauNodes.Act

variable {η α β : Type}

/-- Wherever what the user keeps is of some sort, two activities come to the same outcome, and what
the user keeps then is of that sort. -/
def Agree (Kept : η → Prop) (left right : Act η α) : Prop :=
  ∀ before, Kept before.rest →
    left.outcome before = right.outcome before ∧ Kept (left.outcome before).2.rest

/-- Whatever becomes of an activity, while what the user keeps is of some sort, what the user keeps
then is of that sort. -/
abbrev Steady (Kept : η → Prop) (activity : Act η α) : Prop := Agree Kept activity activity

variable {Kept : η → Prop}

section Rules

variable {left right : Act η α}

theorem Agree.outcome
    (agree : Agree Kept left right)
    {before : Workspace η}
    (kept : Kept before.rest) :
    left.outcome before = right.outcome before :=
  (agree before kept).1

theorem Agree.kept
    (agree : Agree Kept left right)
    {before : Workspace η}
    (kept : Kept before.rest) :
    Kept (left.outcome before).2.rest :=
  (agree before kept).2

theorem steady_pure (value : α) : Steady Kept (pure value : Act η α) :=
  fun _ kept => ⟨rfl, kept⟩

theorem steady_fail (failure : Failure) : Steady Kept (fail failure : Act η α) :=
  fun _ kept => ⟨rfl, kept⟩

theorem steady_get : Steady Kept (get : Act η (Workspace η)) :=
  fun _ kept => ⟨rfl, kept⟩

theorem steady_modify
    {f : Workspace η → Workspace η}
    (keeps : ∀ workspace, Kept workspace.rest → Kept (f workspace).rest) :
    Steady Kept (modify f : Act η Unit) :=
  fun before kept => ⟨rfl, keeps before kept⟩

/-- To change anything but what the user keeps does not matter. -/
theorem steady_modify_of_rest
    {f : Workspace η → Workspace η}
    (same : ∀ workspace, (f workspace).rest = workspace.rest) :
    Steady Kept (modify f : Act η Unit) :=
  steady_modify fun workspace kept => (same workspace).symm ▸ kept

theorem steady_modifyRest {f : η → η} (keeps : ∀ rest, Kept rest → Kept (f rest)) :
    Steady Kept (modifyRest f) :=
  steady_modify fun workspace => keeps workspace.rest

theorem Agree.bind
    {next other : α → Act η β}
    (first : Agree Kept left right)
    (second : ∀ answer, Agree Kept (next answer) (other answer)) :
    Agree Kept (left >>= next) (right >>= other) := by
  intro before kept
  obtain ⟨same, keptStill⟩ := first before kept
  rw [outcome_bind, outcome_bind, ← same]
  rcases ended : left.outcome before with ⟨failure | answer, middle⟩
  · rw [ended] at keptStill
    exact ⟨rfl, keptStill⟩
  · rw [ended] at keptStill
    exact second answer middle keptStill

theorem Agree.tryCatch
    {handler other : Failure → Act η α}
    (first : Agree Kept left right)
    (handled : ∀ failure, Agree Kept (handler failure) (other failure)) :
    Agree Kept (tryCatch left handler) (tryCatch right other) := by
  intro before kept
  obtain ⟨same, keptStill⟩ := first before kept
  rw [outcome_tryCatch, outcome_tryCatch, ← same]
  rcases ended : left.outcome before with ⟨failure | answer, middle⟩
  · rw [ended] at keptStill
    exact handled failure middle keptStill
  · rw [ended] at keptStill
    exact ⟨rfl, keptStill⟩

theorem Agree.map (agree : Agree Kept left right) (f : α → β) :
    Agree Kept (f <$> left) (f <$> right) := by
  rw [← bind_pure_comp, ← bind_pure_comp]
  exact agree.bind fun answer => steady_pure (f answer)

theorem Agree.discard (agree : Agree Kept left right) :
    Agree Kept (discard left) (discard right) :=
  agree.map _

theorem Agree.ite
    {condition : Prop}
    [Decidable condition]
    {other another : Act η α}
    (yes : Agree Kept left right)
    (no : Agree Kept other another) :
    Agree Kept (if condition then left else other) (if condition then right else another) := by
  split
  · exact yes
  · exact no

/-! ## Loops -/

theorem Agree.forIn
    {items : List α}
    {body other : α → Act η Unit}
    (round : ∀ item, Agree Kept (body item) (other item)) :
    Agree Kept
      (forIn items PUnit.unit fun item _ => do
        body item
        pure (ForInStep.yield PUnit.unit))
      (forIn items PUnit.unit fun item _ => do
        other item
        pure (ForInStep.yield PUnit.unit)) := by
  induction items with
  | nil => exact steady_pure PUnit.unit
  | cons item rest ih =>
      rw [List.forIn_cons, List.forIn_cons, bind_assoc, bind_assoc]
      refine (round item).bind fun _ => ?_
      rw [pure_bind, pure_bind]
      exact ih

theorem Agree.forM
    {items : List α}
    {body other : α → Act η Unit}
    (round : ∀ item, Agree Kept (body item) (other item)) :
    Agree Kept (items.forM body) (items.forM other) := by
  induction items with
  | nil => exact steady_pure ()
  | cons item rest ih => exact (round item).bind fun _ => ih

theorem Agree.mapM
    {items : List α}
    {body other : α → Act η β}
    (round : ∀ item, Agree Kept (body item) (other item)) :
    Agree Kept (items.mapM body) (items.mapM other) := by
  induction items with
  | nil => exact steady_pure []
  | cons item rest ih =>
      rw [List.mapM_cons, List.mapM_cons]
      exact (round item).bind fun first => ih.bind fun others => steady_pure (first :: others)

end Rules

/-! ## Activities that tell nobody -/

theorem steady_registry : Steady Kept (registry : Act η Registry) :=
  steady_get.bind fun workspace => steady_pure workspace.registry

theorem steady_rest : Steady Kept (rest : Act η η) :=
  steady_get.bind fun workspace => steady_pure workspace.rest

theorem steady_note (notices : List Notice) : Steady Kept (note notices : Act η Unit) :=
  steady_modify_of_rest fun _ => rfl

theorem steady_ofTree (found : Except TreeFault α) : Steady Kept (ofTree found : Act η α) := by
  cases found with
  | ok value => exact steady_pure value
  | error fault => exact steady_fail (.tree fault)

theorem steady_ofChecked (read : Record.Checked α) : Steady Kept (ofChecked read : Act η α) := by
  cases read with
  | ok value => exact steady_pure value
  | bad faults => exact steady_fail (.invalid faults)

theorem steady_commit (change : Change α) : Steady Kept (commit change : Act η Unit) :=
  steady_modify_of_rest fun _ => rfl

theorem steady_follow (document : String) (scope : Scope) :
    Steady Kept (follow document scope : Act η Nat) :=
  steady_get.bind fun workspace =>
    Agree.bind (steady_modify_of_rest fun _ => rfl) fun _ => steady_pure workspace.watches.length

theorem steady_followed? (watch : Option Nat) :
    Steady Kept (followed? watch : Act η (Option Scope)) :=
  steady_get.bind fun _ => steady_pure _

theorem steady_mount? (place : Nat) : Steady Kept (mount? place : Act η (Option Mount)) :=
  steady_get.bind fun workspace => steady_pure workspace.mounts[place]?

theorem steady_modifyMount (place : Nat) (f : Mount → Mount) :
    Steady Kept (modifyMount place f : Act η Unit) :=
  steady_modify_of_rest fun _ => rfl

theorem steady_addBinding (space : Namespace) (document : String) (scopeId : Option String) :
    Steady Kept (addBinding space document scopeId : Act η Nat) :=
  steady_get.bind fun workspace =>
    Agree.bind (steady_modify_of_rest fun _ => rfl) fun _ => steady_pure workspace.bindings.length

theorem steady_binding? (place : Nat) : Steady Kept (binding? place : Act η (Option Binding)) :=
  steady_get.bind fun workspace => steady_pure workspace.bindings[place]?

theorem steady_rename (place : Nat) (name : Option String) :
    Steady Kept (rename place name : Act η Unit) :=
  steady_modify_of_rest fun _ => rfl

/-! ## Activities that tell events -/

section Tells

variable {tell other : Event → Act η Unit} (tells : ∀ event, Agree Kept (tell event) (other event))
include tells

theorem Agree.perform (operation : Registry → Change α) :
    Agree Kept (perform tell operation) (perform other operation) :=
  steady_registry.bind fun registry => (steady_commit (operation registry)).bind fun _ =>
    (Agree.forM tells).bind fun _ => steady_pure (operation registry).result

theorem Agree.createScope (document : String) (scope : Scope) :
    Agree Kept (createScope tell document scope) (createScope other document scope) := by
  refine steady_registry.bind fun registry => (steady_ofTree _).bind fun change =>
    (steady_commit change).bind fun _ => ?_
  refine Agree.bind ?_ fun watch => (Agree.forM tells).bind fun _ => steady_pure watch
  cases change.result with
  | none => exact steady_pure none
  | some created => exact (steady_follow document created).map some

theorem Agree.clearAll : Agree Kept (clearAll tell) (clearAll other) :=
  steady_registry.bind fun _ =>
    (Agree.forIn fun _ => Agree.perform tells _).bind fun _ => steady_pure ()

/-! ### Mounts -/

theorem Agree.declareIn (place : Nat) (symbol : Symbol) :
    Agree Kept (declareIn tell place symbol) (declareIn other place symbol) := by
  refine (steady_mount? place).bind fun found => ?_
  cases found with
  | none => exact steady_pure none
  | some mount =>
      refine Agree.ite (steady_pure none) ((Agree.perform tells _).bind fun stored => ?_)
      cases stored with
      | none => exact steady_pure none
      | some declared =>
          exact (steady_modifyMount place _).bind fun _ => steady_pure (some declared)

theorem Agree.mountScope
    (document nodeId : String)
    (kind : ScopeKind)
    (parentId : Option String)
    (symbols : List Symbol)
    (enter : Bool) :
    Agree Kept (mountScope tell document nodeId kind parentId symbols enter)
      (mountScope other document nodeId kind parentId symbols enter) := by
  refine (Agree.createScope tells document _).bind fun watch => steady_get.bind fun workspace => ?_
  refine Agree.bind (steady_modify_of_rest fun _ => rfl) fun _ => ?_
  refine Agree.ite ?_ (steady_pure _)
  refine (Agree.forIn fun symbol => (Agree.declareIn tells _ symbol).discard).bind fun _ => ?_
  exact Agree.ite ((Agree.perform tells _).discard.bind fun _ => steady_pure _) (steady_pure _)

theorem Agree.unmount (place : Nat) : Agree Kept (unmount tell place) (unmount other place) := by
  refine (steady_mount? place).bind fun found => ?_
  cases found with
  | none => exact steady_pure ()
  | some mount =>
      refine Agree.ite (steady_pure ()) ((steady_modifyMount place _).bind fun _ => ?_)
      refine (Agree.perform tells _).discard.bind fun _ => ?_
      refine (Agree.forIn fun entry => (Agree.perform tells _).discard).bind fun _ => ?_
      exact (steady_modifyMount place _).bind fun _ =>
        (Agree.perform tells _).discard.bind fun _ => steady_note _

theorem Agree.withScope
    {block another : Bool → Act η α}
    (document : String)
    (scopeId : Option String)
    (inner : ∀ entered, Agree Kept (block entered) (another entered)) :
    Agree Kept (withScope tell document scopeId block)
      (withScope other document scopeId another) := by
  unfold Act.withScope
  refine (Agree.perform tells _).bind fun entered => ?_
  extract_lets leave leaveToo
  have leaves : Agree Kept leave leaveToo := by
    cases scopeId with
    | none => exact steady_pure ()
    | some scopeId =>
        cases entered with
        | false => exact steady_pure ()
        | true => exact (Agree.perform tells _).discard
  refine Agree.bind ?_ fun ended => ?_
  · exact Agree.tryCatch ((inner entered).bind fun answer => leaves.bind fun _ => steady_pure _)
      fun failure => leaves.bind fun _ => steady_fail failure
  · rcases ended with answer | answer <;> exact steady_pure answer

/-! ### Bindings -/

theorem Agree.drop (binding : Binding) (name : String) :
    Agree Kept (drop tell binding name) (drop other binding name) :=
  (Agree.perform tells _).discard

theorem Agree.store (place : Nat) (binding : Binding) (symbol : Symbol) :
    Agree Kept (store tell place binding symbol) (store other place binding symbol) :=
  (Agree.perform tells _).bind fun stored =>
    (steady_rename place _).bind fun _ => steady_pure stored

theorem Agree.sync
    (place : Nat)
    (name : Option String)
    (build : Option String → String → Record.Checked Symbol) :
    Agree Kept (sync tell place name build) (sync other place name build) := by
  unfold Act.sync
  refine (steady_binding? place).bind fun found => ?_
  cases found with
  | none => exact steady_pure none
  | some binding =>
      extract_lets wanted stores storesToo
      have agrees : ∀ done, Agree Kept (stores done) (storesToo done) := by
        intro done
        refine Agree.ite (steady_pure none) ((steady_binding? place).bind fun found => ?_)
        cases found with
        | none => exact steady_pure none
        | some current =>
            exact (steady_ofChecked _).bind fun symbol => Agree.store tells place current symbol
      dsimp only
      cases binding.name with
      | none => exact agrees ()
      | some old =>
          exact Agree.ite ((Agree.drop tells binding old).bind fun _ =>
            (steady_rename place none).bind agrees) (agrees ())

theorem Agree.moveTo (place : Nat) (scopeId : Option String) :
    Agree Kept (moveTo tell place scopeId) (moveTo other place scopeId) := by
  unfold Act.moveTo
  refine (steady_binding? place).bind fun found => ?_
  cases found with
  | none => exact steady_pure ()
  | some binding =>
      refine Agree.ite (steady_pure ()) (steady_registry.bind fun registry => ?_)
      extract_lets table entry moves movesToo
      have agrees : ∀ done, Agree Kept (moves done) (movesToo done) := by
        intro done
        refine Agree.bind (steady_modify_of_rest fun _ => rfl) fun _ => ?_
        cases entry with
        | none => exact steady_pure ()
        | some symbol => exact (Agree.store tells place binding _).discard
      cases binding.name with
      | none => exact agrees ()
      | some name => exact (Agree.drop tells binding name).bind agrees

theorem Agree.release (place : Nat) : Agree Kept (release tell place) (release other place) := by
  refine (steady_binding? place).bind fun found => ?_
  cases found with
  | none => exact steady_pure ()
  | some binding =>
      dsimp only
      cases binding.name with
      | none => exact steady_pure ()
      | some name => exact (Agree.drop tells binding name).bind fun _ => steady_rename place none

end Tells

end LuauNodes.Act
