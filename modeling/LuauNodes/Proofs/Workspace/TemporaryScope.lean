import LuauNodes.Proofs.Registry.ActiveHistory
import LuauNodes.Proofs.Workspace.Adoption
import Mathlib.Logic.Relation

/-!
# Scopes that are entered for a time

A scope may be entered for the time of a block, and is left when the block ends,
whether it fails or not.  A block that moves no scope itself finds the scope on
top and leaves the stack as it was, less that scope.  So the stack is what it was
before just if the scope was not active then, and a scope that was active already
is no longer so afterwards.
-/

namespace LuauNodes

/-! ## Operations that move no scope -/

/-- An operation may change which scopes of a document are active, or in which order. -/
def Operation.MovesScopes (document : String) : Operation → Prop
  | enterScope other _ | exitScope other _ | destroyScope other _ | clearDocument other =>
    other = document
  | _ => False

namespace Registry

variable {registry before after : Registry} {document : String}

/-- An operation that moves no scope of a document makes one registry of another one. -/
def StillStep (document : String) (before after : Registry) : Prop :=
  ∃ (operation : Operation) (events : List Event), ¬ operation.MovesScopes document ∧
    operation.effect before = .ok (after, events)

/-- Some operations one after the other, none of which moves a scope of a document. -/
def Passes (document : String) : Registry → Registry → Prop :=
  Relation.ReflTransGen (StillStep document)

theorem StillStep.stack (step : StillStep document before after) :
    after.scopes.stack document = before.scopes.stack document := by
  obtain ⟨operation, events, still, accepted⟩ := step
  by_cases here : operation.document = document
  · subst here
    cases operation with
    | declare space document symbol =>
        cases accepted
        exact stack_declare before space document symbol
    | revise space document name scopeId fields =>
        cases accepted
        exact congrArg (ScopeTree.stack · document)
          (scopes_revise before space document name scopeId fields)
    | remove space document name scopeId =>
        cases accepted
        exact stack_remove before space document name scopeId
    | clearSymbols space document =>
        cases accepted
        exact stack_clearSymbols before space document
    | createScope document scope =>
        rw [Operation.effect] at accepted
        cases created : before.createScope document scope with
        | error fault => simp [created, Except.map] at accepted
        | ok change =>
            rw [created] at accepted
            cases accepted
            exact stack_createScope created
    | enterScope document scopeId => exact (still rfl).elim
    | exitScope document scopeId => exact (still rfl).elim
    | destroyScope document scopeId => exact (still rfl).elim
    | clearDocument document => exact (still rfl).elim
  · exact (agreesOn_of_without here (without_of_effect operation accepted)).scopes.stack

theorem Passes.stack (passes : Passes document before after) :
    after.scopes.stack document = before.scopes.stack document := by
  induction passes with
  | refl => rfl
  | tail _ step ih => exact step.stack.trans ih

/-! ## Entering and leaving -/

theorem result_enterScope (registry : Registry) (document : String) (scopeId : Option String) :
    (registry.enterScope document scopeId).result = registry.scopes.has document scopeId := by
  cases scopeId with
  | none => rfl
  | some id =>
      unfold enterScope
      cases registry.scopes.has document (some id) <;> rfl

theorem stack_enterScope_of_stored
    {id : String}
    (stored : registry.scopes.has document (some id) = true) :
    (registry.enterScope document (some id)).registry.scopes.stack document =
      (registry.scopes.stack document).filter (· ≠ id) ++ [id] := by
  simp only [enterScope, stored]
  exact (ScopeTree.stack_setStack _ _ _ _).trans (if_pos rfl)

theorem enterScope_of_not_stored
    {scopeId : Option String}
    (missing : registry.scopes.has document scopeId = false) :
    (registry.enterScope document scopeId).registry = registry := by
  unfold enterScope
  rw [missing]
  cases scopeId <;> rfl

theorem stack_exitScope (registry : Registry) (document id : String) :
    (registry.exitScope document id).registry.scopes.stack document =
      (registry.scopes.stack document).filter (· ≠ id) := by
  unfold exitScope
  split
  · exact (ScopeTree.stack_setStack _ _ _ _).trans (if_pos rfl)
  · rename_i inactive
    refine (List.filter_eq_self.mpr fun other active => decide_eq_true ?_).symm
    rintro rfl
    exact inactive (List.elem_iff.mpr active)

end Registry

/-! ## Lists -/

theorem filter_some_ne
    {α : Type}
    [DecidableEq α]
    (items : List α)
    (item : α) :
    items.filter (some · ≠ some item) = items.filter (· ≠ item) :=
  List.filter_congr fun other _ => by simp

/-- A list without some of its members ends as it did just if the last one is not among them. -/
theorem getLast?_filter_ne_iff
    {α : Type}
    [DecidableEq α]
    (items : List α)
    (item : α) :
    (items.filter (· ≠ item)).getLast? = items.getLast? ↔ items.getLast? ≠ some item := by
  constructor
  · intro same last
    rw [last] at same
    simpa using (List.mem_filter.mp (List.mem_of_getLast? same)).2
  · intro apart
    rcases List.eq_nil_or_concat' items with rfl | ⟨lower, top, rfl⟩
    · rfl
    · rw [List.getLast?_concat, ne_eq, Option.some.injEq] at apart
      rw [List.filter_append, List.filter_cons_of_pos (by simpa using apart), List.filter_nil,
        List.getLast?_concat, List.getLast?_concat]

namespace Act

variable {η α β : Type} {tell : Event → Act η Unit} {Calm : η → Prop}
variable {before middle : Workspace η} {document : String}

/-! ## Activities that move no scope -/

/-- Whether it fails or not, an activity leaves a registry that some operations make of the one that
it finds, and none of these operations moves a scope of a document. -/
def Still (Calm : η → Prop) (document : String) (activity : Act η α) : Prop :=
  ∀ before, Calm before.rest → activity.Leaves before fun after =>
    before.registry.Passes document after.registry ∧ Calm after.rest

theorem still_pure (value : α) : Still Calm document (pure value) :=
  fun _ calm => ⟨.refl, calm⟩

theorem still_fail (failure : Failure) : Still Calm document (fail failure : Act η α) :=
  fun _ calm => ⟨.refl, calm⟩

theorem Still.bind
    {first : Act η α}
    {next : α → Act η β}
    (still : Still Calm document first)
    (goesOn : ∀ answer, Still Calm document (next answer)) :
    Still Calm document (first >>= next) := by
  intro before calm
  have left := still before calm
  unfold Leaves at left ⊢
  rw [outcome_bind]
  rcases ended : first.outcome before with ⟨_ | answer, middle⟩
  · rw [ended] at left
    exact left
  · rw [ended] at left
    obtain ⟨passed, calmStill⟩ := left
    obtain ⟨further, calmAfter⟩ := goesOn answer middle calmStill
    exact ⟨passed.trans further, calmAfter⟩

/-- An operation that moves no scope, whether it is accepted or not. -/
theorem LooksOn.still_carryOut
    (looksOn : LooksOn tell Calm)
    {operation : Operation}
    (still : ¬ operation.MovesScopes document) :
    Still Calm document (Act.carryOut tell operation) := by
  intro before calm
  cases accepted : operation.effect before.registry with
  | ok final =>
      obtain ⟨final, events⟩ := final
      refine ((looksOn.carryOut calm accepted).mono ?_).leaves
      rintro _ after ⟨finished, calmAfter⟩
      rw [finished.registry]
      exact ⟨.single ⟨operation, events, still, accepted⟩, calmAfter⟩
  | error fault =>
      cases operation with
      | createScope owner scope =>
          rw [Operation.effect] at accepted
          cases created : before.registry.createScope owner scope with
          | ok change => simp [created, Except.map] at accepted
          | error fault =>
              refine Leaves.map ?_ _
              unfold Act.createScope
              refine Ensures.leaves_bind ((ensures_registry _).mpr ?_)
              rw [created]
              exact ⟨.refl, calm⟩
      | _ => cases accepted

/-! ## Blocks -/

/-- What follows a block in either case is done once, and the whole ends as the block ends. -/
theorem ends_followed
    {block : Act η α}
    {next : Act η Unit}
    {post : Workspace η → Prop}
    (follows : block.Leaves middle fun inner => next.Ensures inner fun _ after => post after) :
    let whole : Act η α := do
      try
        let answer ← block
        next
        return answer
      catch failure =>
        next
        throw failure
    (whole.outcome middle).1 = (block.outcome middle).1 ∧ whole.Leaves middle post := by
  intro whole
  unfold Leaves at follows ⊢
  simp only [whole, outcome_tryCatch, outcome_bind]
  rcases ended : block.outcome middle with ⟨failure | answer, inner⟩
  · rw [ended] at follows
    obtain ⟨_, after, left, holds⟩ := follows
    dsimp only
    rw [left]
    exact ⟨rfl, holds⟩
  · rw [ended] at follows
    obtain ⟨_, after, left, holds⟩ := follows
    dsimp only
    rw [left]
    exact ⟨rfl, holds⟩

/-- What a block that moves no scope finds and leaves, if a scope is entered for its time. -/
structure Passing
    (before middle : Workspace η)
    (document : String)
    (scopeId : Option String)
    (block : Act η α)
    (whole : Act η α) :
    Prop where
  /-- The block finds the scope on top, if it is stored. -/
  found : middle.registry.scopes.stack document =
    if before.registry.scopes.has document scopeId then
      (before.registry.scopes.stack document).filter (some · ≠ scopeId) ++ scopeId.toList
    else before.registry.scopes.stack document
  /-- The whole ends as the block ends. -/
  ends : (whole.outcome before).1 = (block.outcome middle).1
  /-- The scope is not active any more, and the other ones are active as before. -/
  left : whole.Leaves before fun after => after.registry.scopes.stack document =
    (before.registry.scopes.stack document).filter (some · ≠ scopeId)

theorem LooksOn.passing_of_stored
    (looksOn : LooksOn tell Calm)
    (calm : Calm before.rest)
    {document id : String}
    (stored : before.registry.scopes.has document (some id) = true)
    {block : Bool → Act η α}
    (still : Still Calm document (block true)) :
    ∃ middle, Passing before middle document (some id) (block true)
      (withScope tell document (some id) block) := by
  obtain ⟨entered, middle, ended, answer, adopted⟩ :=
    looksOn.ensures_perform calm fun registry => registry.enterScope document (some id)
  rw [Registry.result_enterScope, stored] at answer
  subst answer
  have found : middle.registry.scopes.stack document =
      (before.registry.scopes.stack document).filter (· ≠ id) ++ [id] := by
    rw [adopted.registry, Registry.stack_enterScope_of_stored stored]
  have follows : (block true).Leaves middle fun inner =>
      (discard (Act.perform tell fun registry => registry.exitScope document id)).Ensures inner
        fun _ after => after.registry.scopes.stack document =
          (before.registry.scopes.stack document).filter (some · ≠ some id) := by
    refine (still middle adopted.calm).mono ?_
    rintro inner ⟨passed, calmInner⟩
    refine (ensures_discard _).mpr ((looksOn.ensures_perform calmInner _).mono ?_)
    rintro _ after ⟨-, left⟩
    rw [left.registry, Registry.stack_exitScope, passed.stack, found, filter_some_ne,
      List.filter_append, List.filter_filter]
    simp
  obtain ⟨ends, left⟩ := ends_followed follows
  refine ⟨middle, ⟨?_, ?_, ?_⟩⟩
  · rw [stored, if_pos rfl, found, filter_some_ne]
    rfl
  · rw [withScope, outcome_bind, ended]
    exact ends
  · rw [Leaves, withScope, outcome_bind, ended]
    exact left

theorem LooksOn.passing_of_not_stored
    (looksOn : LooksOn tell Calm)
    (calm : Calm before.rest)
    (reachable : before.registry.Reachable)
    {document : String}
    {scopeId : Option String}
    (missing : before.registry.scopes.has document scopeId = false)
    {block : Bool → Act η α}
    (still : Still Calm document (block false)) :
    ∃ middle, Passing before middle document scopeId (block false)
      (withScope tell document scopeId block) := by
  obtain ⟨entered, middle, ended, answer, adopted⟩ :=
    looksOn.ensures_perform calm fun registry => registry.enterScope document scopeId
  rw [Registry.result_enterScope, missing] at answer
  subst answer
  have found : middle.registry.scopes.stack document = before.registry.scopes.stack document := by
    rw [adopted.registry, Registry.enterScope_of_not_stored missing]
  have inactive : (before.registry.scopes.stack document).filter (some · ≠ scopeId) =
      before.registry.scopes.stack document := by
    refine List.filter_eq_self.mpr fun id active => decide_eq_true ?_
    rintro rfl
    rw [reachable.has_of_active active] at missing
    cases missing
  have follows : (block false).Leaves middle fun inner =>
      (pure () : Act η Unit).Ensures inner fun _ after =>
        after.registry.scopes.stack document =
          (before.registry.scopes.stack document).filter (some · ≠ scopeId) := by
    refine (still middle adopted.calm).mono ?_
    rintro inner ⟨passed, -⟩
    exact (ensures_pure _ _).mpr (passed.stack.trans (found.trans inactive.symm))
  obtain ⟨ends, left⟩ := ends_followed follows
  refine ⟨middle, ⟨?_, ?_, ?_⟩⟩
  · rw [missing, if_neg Bool.false_ne_true, found]
  · rw [withScope, outcome_bind, ended]
    cases scopeId <;> exact ends
  · rw [Leaves, withScope, outcome_bind, ended]
    cases scopeId <;> exact left

/-- A scope that is entered for the time of a block which moves no scope itself.  The block finds it
on top if it is stored, and the whole ends as the block ends.  Afterwards the scope is not active,
and the other ones are active as before.  So the stack is what it was just if the scope was not on
it, and the current scope is the same just if it was another one. -/
theorem LooksOn.stack_withScope
    (looksOn : LooksOn tell Calm)
    (calm : Calm before.rest)
    (reachable : before.registry.Reachable)
    (document : String)
    (scopeId : Option String)
    {block : Bool → Act η α}
    (still : ∀ entered, Still Calm document (block entered)) :
    let scopes := before.registry.scopes
    let whole := withScope tell document scopeId block
    let after := (whole.outcome before).2.registry.scopes
    (∃ middle, Passing before middle document scopeId (block (scopes.has document scopeId)) whole) ∧
      (after.stack document = scopes.stack document ↔
        ∀ id ∈ scopeId, id ∉ scopes.stack document) ∧
      (after.current? document = scopes.current? document ↔
        ∀ id ∈ scopeId, scopes.current? document ≠ some id) := by
  intro scopes whole after
  have passing : ∃ middle,
      Passing before middle document scopeId (block (scopes.has document scopeId)) whole := by
    cases stored : scopes.has document scopeId with
    | false => exact looksOn.passing_of_not_stored calm reachable stored (still false)
    | true =>
        cases scopeId with
        | none => cases stored
        | some id => exact looksOn.passing_of_stored calm stored (still true)
  obtain ⟨middle, passed⟩ := passing
  have left : after.stack document = (scopes.stack document).filter (some · ≠ scopeId) :=
    passed.left
  refine ⟨⟨middle, passed⟩, ?_, ?_⟩
  · rw [left, List.filter_eq_self]
    constructor
    · rintro apart id rfl active
      exact of_decide_eq_true (apart id active) rfl
    · rintro inactive id active
      exact decide_eq_true fun same => inactive id same.symm active
  · rw [ScopeTree.current?, ScopeTree.current?, left]
    cases scopeId with
    | none => simp
    | some id =>
        rw [filter_some_ne, getLast?_filter_ne_iff]
        simp

/-- A workspace in which the body of a function is active. -/
def inBody : Workspace Unit :=
  let entering := Dispatch.asking (Operation.shadowing ++ [.enterScope "main" (some "body")])
  { Workspace.fresh () with registry := entering.registry }

/-- Declares a variable in a loop, clears the variables of the document, and fails. -/
def trial : Act Unit Unit := do
  let symbol : Symbol := { Symbol.ofVariable "t" .number with scopeId := some "loop" }
  carryOut unheard (.declare .vars "main" symbol)
  carryOut unheard (.clearSymbols .vars "main")
  fail .requested

theorem stack_withScope_trial :
    let whole := withScope unheard "main" (some "loop") fun _ => trial
    let after := (whole.outcome inBody).2.registry.scopes
    inBody.registry.Reachable ∧ Still (fun _ => True) "main" trial ∧
      inBody.registry.scopes.stack "main" = ["body"] ∧ after.stack "main" = ["body"] ∧
      after.current? "main" = some "body" := by
  intro whole after
  have reachable : inBody.registry.Reachable := (Dispatch.reachable_asking _).registry
  have still : Still (fun _ => True) "main" trial :=
    (looksOn_unheard.still_carryOut id).bind fun _ =>
      (looksOn_unheard.still_carryOut id).bind fun _ => still_fail .requested
  have active : inBody.registry.scopes.stack "main" = ["body"] := by decide +kernel
  have current : inBody.registry.scopes.current? "main" = some "body" := by decide +kernel
  obtain ⟨-, stack, top⟩ := looksOn_unheard.stack_withScope trivial reachable "main" (some "loop")
    fun _ => still
  refine ⟨reachable, still, active, ?_, ?_⟩
  · rw [← active]
    exact stack.mpr (by decide +kernel)
  · rw [← current]
    exact top.mpr (by decide +kernel)

/-- The body of the function is entered for the time of a block that does nothing, and is not active
any more; so a scope may be lost to a block around it before that block is over. -/
theorem not_stack_withScope_inBody :
    let whole := withScope unheard "main" (some "body") fun _ => pure ()
    let after := (whole.outcome inBody).2.registry.scopes
    let around : Act Unit (Option String) :=
      withScope unheard "main" (some "loop") fun _ => do
        withScope unheard "main" (some "loop") fun _ => pure ()
        return (← registry).scopes.current? "main"
    inBody.registry.Reachable ∧ Still (fun _ => True) "main" (pure () : Act Unit Unit) ∧
      inBody.registry.scopes.stack "main" = ["body"] ∧ after.stack "main" = [] ∧
      inBody.registry.scopes.current? "main" = some "body" ∧ after.current? "main" = none ∧
      (around.outcome inBody).1 = .ok (some "body") := by
  intro whole after around
  exact ⟨(Dispatch.reachable_asking _).registry, still_pure (), by decide +kernel,
    by decide +kernel, by decide +kernel, by decide +kernel, rfl⟩

end Act

end LuauNodes
