import LuauNodes.Proofs.Registry.Destruction
import LuauNodes.Proofs.Registry.GlobalSymbols

/-!
# The history of the active scopes

Which scopes of a document are active, and in which order, is told by what was
done in the run so far: a scope is active from the moment at which it is entered
until it is left, destroyed with a scope around it or cleared with its document,
and active scopes stand in the order in which they were last entered.
-/

namespace LuauNodes

open ScopeTree (ParentChain)

/-! ## Chronicles -/

/-- An operation that was carried out, with the registry that it found. -/
structure Moment where
  registry : Registry
  operation : Operation

namespace Moment

/-- The scope of a document that is entered. -/
def entered? (document : String) (moment : Moment) : Option String :=
  match moment.operation with
  | .enterScope other scopeId =>
    if other = document ∧ (moment.registry.enterScope other scopeId).result = true then scopeId
    else none
  | _ => none

/-- A scope of a document is left, or destroyed with itself or with a scope around it, or the whole
document is cleared. -/
def Ends (document id : String) (moment : Moment) : Prop :=
  match moment.operation with
  | .exitScope other scopeId => other = document ∧ scopeId = id
  | .destroyScope other scopeId =>
    other = document ∧ (scopeId = id ∨
      ∃ outer, moment.registry.scopes.ancestors document id = .ok outer ∧ scopeId ∈ outer)
  | .clearDocument other => other = document
  | _ => False

end Moment

namespace Dispatch

/-- A run with all that was carried out in it, the first moment at the front. -/
inductive Chronicle : List Moment → Dispatch → Prop where
  | start : Chronicle [] start
  | operate
      {history : List Moment}
      {registry after : Registry}
      {tasks : List Task}
      {events : List Event}
      (past : Chronicle history ⟨registry, tasks⟩)
      (operation : Operation)
      (accepted : operation.effect registry = .ok (after, events)) :
      Chronicle (history ++ [⟨registry, operation⟩]) ⟨after, events.map Task.tell ++ tasks⟩
  | clearAll
      {history : List Moment}
      {registry : Registry}
      {tasks : List Task}
      (past : Chronicle history ⟨registry, tasks⟩) :
      Chronicle history ⟨registry, registry.documents.map Task.clear ++ tasks⟩
  | clear
      {history : List Moment}
      {registry : Registry}
      {document : String}
      {tasks : List Task}
      (past : Chronicle history ⟨registry, .clear document :: tasks⟩) :
      Chronicle (history ++ [⟨registry, .clearDocument document⟩])
        ⟨(registry.clearDocument document).registry,
          (registry.clearDocument document).events.map Task.tell ++ tasks⟩
  | told
      {history : List Moment}
      {registry : Registry}
      {event : Event}
      {tasks : List Task}
      (past : Chronicle history ⟨registry, .tell event :: tasks⟩) :
      Chronicle history ⟨registry, tasks⟩

theorem Chronicle.reachable
    {history : List Moment}
    {dispatch : Dispatch}
    (chronicle : Chronicle history dispatch) :
    dispatch.Reachable := by
  induction chronicle with
  | start => exact .start
  | operate _ operation accepted reached => exact .step reached (.operate operation _ accepted)
  | clearAll _ reached => exact .step reached (.clearAll _ _)
  | clear _ reached => exact .step reached (.clear _ _ _)
  | told _ reached => exact .step reached (.told _ _ _)

/-- Every run can be chronicled. -/
theorem Reachable.exists_chronicle
    {dispatch : Dispatch}
    (reached : dispatch.Reachable) :
    ∃ history, Chronicle history dispatch := by
  induction reached with
  | start => exact ⟨[], .start⟩
  | step _ step ih =>
      obtain ⟨history, past⟩ := ih
      cases step with
      | operate operation tasks accepted => exact ⟨_, past.operate operation accepted⟩
      | clearAll registry tasks => exact ⟨_, past.clearAll⟩
      | clear registry document tasks => exact ⟨_, past.clear⟩
      | told registry event tasks => exact ⟨_, past.told⟩

/-- A chronicle that goes on with an operation; one that fails is not recorded. -/
def record (past : List Moment × Dispatch) (operation : Operation) : List Moment × Dispatch :=
  match operation.effect past.2.registry with
  | .ok (after, events) =>
    (past.1 ++ [⟨past.2.registry, operation⟩], ⟨after, events.map Task.tell ++ past.2.tasks⟩)
  | .error _ => past

/-- The chronicle of the run in which some operations are asked for in turn. -/
def recording (operations : List Operation) : List Moment × Dispatch :=
  operations.foldl record ([], start)

theorem Chronicle.record
    {past : List Moment × Dispatch}
    (chronicle : Chronicle past.1 past.2)
    (operation : Operation) :
    Chronicle (record past operation).1 (record past operation).2 := by
  unfold Dispatch.record
  split
  · rename_i accepted
    exact chronicle.operate operation accepted
  · exact chronicle

theorem chronicle_recording (operations : List Operation) :
    Chronicle (recording operations).1 (recording operations).2 := by
  have goesOn : ∀ {past : List Moment × Dispatch}, Chronicle past.1 past.2 →
      Chronicle (operations.foldl Dispatch.record past).1
        (operations.foldl Dispatch.record past).2 := by
    induction operations with
    | nil => exact fun chronicle => chronicle
    | cons operation rest ih => exact fun chronicle => ih (chronicle.record operation)
  exact goesOn .start

/-- What was carried out at a place of a chronicle enters a scope, which is neither entered again
nor ended since. -/
structure EnteredAt
    (history : List Moment)
    (document id : String)
    (place : Nat) :
    Prop where
  enters : ∃ moment, history[place]? = some moment ∧ moment.entered? document = some id
  since : ∀ later moment, place < later → history[later]? = some moment →
    moment.entered? document ≠ some id ∧ ¬ moment.Ends document id

theorem not_enteredAt_nil {document id : String} {place : Nat} :
    ¬ EnteredAt [] document id place := by
  rintro ⟨⟨moment, found, -⟩, -⟩
  cases found

/-- One more moment enters a scope, or leaves its last entry as it is. -/
theorem enteredAt_append_iff
    (history : List Moment)
    (moment : Moment)
    (document id : String)
    (place : Nat) :
    EnteredAt (history ++ [moment]) document id place ↔
      (place = history.length ∧ moment.entered? document = some id) ∨
        (EnteredAt history document id place ∧
          moment.entered? document ≠ some id ∧ ¬ moment.Ends document id) := by
  have last : (history ++ [moment])[history.length]? = some moment := List.getElem?_concat_length
  have earlier : ∀ {other}, other < history.length →
      (history ++ [moment])[other]? = history[other]? := List.getElem?_append_left
  have within : ∀ {other : Nat} {found : Moment}, (history ++ [moment])[other]? = some found →
      other ≤ history.length := by
    intro other found there
    have bound := (List.getElem?_eq_some_iff.mp there).1
    rw [List.length_append, List.length_singleton] at bound
    omega
  constructor
  · rintro ⟨⟨entering, found, enters⟩, since⟩
    rcases Nat.lt_or_eq_of_le (within found) with before | rfl
    · rw [earlier before] at found
      refine Or.inr ⟨⟨⟨entering, found, enters⟩, fun later other after foundLater => ?_⟩,
        since history.length moment before last⟩
      have bound := (List.getElem?_eq_some_iff.mp foundLater).1
      exact since later other after ((earlier bound).trans foundLater)
    · rw [last] at found
      cases found
      exact Or.inl ⟨rfl, enters⟩
  · rintro (⟨rfl, enters⟩ | ⟨⟨⟨entering, found, enters⟩, since⟩, still⟩)
    · refine ⟨⟨moment, last, enters⟩, fun later other after found => ?_⟩
      have bound := within found
      omega
    · have before := (List.getElem?_eq_some_iff.mp found).1
      refine ⟨⟨entering, (earlier before).trans found, enters⟩, fun later other after there => ?_⟩
      rcases Nat.lt_or_eq_of_le (within there) with among | rfl
      · rw [earlier among] at there
        exact since later other after there
      · rw [last] at there
        cases there
        exact still

end Dispatch

/-! ## One moment -/

namespace Moment

variable {document : String} {moment : Moment} {before after : List String}

/-- What a moment makes of the stack of a document: some scopes stay in their order, and the one
that is entered comes on top. -/
def Restacks (document : String) (moment : Moment) (before after : List String) : Prop :=
  ∃ kept : List String, kept.Sublist before ∧
    (∀ id, id ∈ kept ↔ id ∈ before ∧ moment.entered? document ≠ some id ∧
      ¬ moment.Ends document id) ∧
    after = kept ++ (moment.entered? document).toList

theorem restacks_of_eq
    (same : after = before)
    (idle : moment.entered? document = none)
    (stays : ∀ id ∈ before, ¬ moment.Ends document id) :
    moment.Restacks document before after := by
  refine ⟨before, .refl before, fun id => ?_, by rw [same, idle]; simp⟩
  rw [idle]
  exact ⟨fun active => ⟨active, by simp, stays id active⟩, fun active => active.1⟩

theorem restacks_filter
    (removed : String → Bool)
    (idle : moment.entered? document = none)
    (filtered : after = before.filter fun id => !removed id)
    (ends : ∀ id ∈ before, removed id = true ↔ moment.Ends document id) :
    moment.Restacks document before after := by
  subst filtered
  refine ⟨_, List.filter_sublist, fun id => ?_, by rw [idle]; exact (List.append_nil _).symm⟩
  rw [idle, List.mem_filter]
  constructor
  · rintro ⟨active, stays⟩
    refine ⟨active, by simp, fun gone => ?_⟩
    rw [(ends id active).mpr gone] at stays
    cases stays
  · rintro ⟨active, -, stays⟩
    exact ⟨active, by simpa using fun gone => stays ((ends id active).mp gone)⟩

end Moment

namespace Registry

variable {registry : Registry} {document : String}

theorem scopes_revise
    (registry : Registry)
    (space : Namespace)
    (document name : String)
    (scopeId : Option String)
    (fields : Record.Fields) :
    (registry.revise space document name scopeId fields).registry.scopes = registry.scopes := by
  unfold Registry.revise
  dsimp only
  split
  · rfl
  · rfl
  · exact scopes_setTable registry space _

/-- The scopes that are active are stored. -/
theorem Reachable.has_of_active
    (reachable : registry.Reachable)
    {id : String}
    (active : id ∈ registry.scopes.stack document) :
    registry.scopes.has document (some id) = true := by
  rw [has_eq_decide_mem_keys, decide_eq_true_iff]
  exact (reachable.tidyAt document).active id active

theorem stack_clearSymbols (registry : Registry) (space : Namespace) (document : String) :
    (registry.clearSymbols space document).registry.scopes.stack document =
      registry.scopes.stack document := by
  have goesOn : ∀ (touched : List (Option String)) (rest : Registry),
      (touched.foldl (fun rest scopeId => rest.syncMembers document scopeId) rest).scopes.stack
        document = rest.scopes.stack document := by
    intro touched
    induction touched with
    | nil => exact fun _ => rfl
    | cons scopeId touched ih => exact fun rest => (ih _).trans (stack_syncMembers rest _ scopeId)
  refine (goesOn _ _).trans ?_
  rw [scopes_setTable]

theorem ConsistentAt.ancestors_iff
    {pending : List (Option String)}
    (consistent : registry.ConsistentAt document pending)
    {id other : String} :
    (∃ outer, registry.scopes.ancestors document id = .ok outer ∧ other ∈ outer) ↔
      ∃ outer, ParentChain (registry.scopes.entries document) id outer ∧ other ∈ outer := by
  cases found : (registry.scopes.entries document).get? id with
  | none =>
      rw [ScopeTree.ancestors_eq_nil_of_not_stored found]
      constructor
      · rintro ⟨outer, same, among⟩
        cases same
        cases among
      · rintro ⟨outer, chain, -⟩
        obtain ⟨scope, stored⟩ := chain.stored
        rw [found] at stored
        cases stored
  | some scope =>
      obtain ⟨outer, chain⟩ := consistent.forest.grounded id scope found
      rw [ScopeTree.ancestors_eq_of_parentChain chain]
      constructor
      · rintro ⟨_, same, among⟩
        cases same
        exact ⟨outer, chain, among⟩
      · rintro ⟨again, chainAgain, among⟩
        exact ⟨outer, rfl, chain.unique chainAgain ▸ among⟩

end Registry

namespace Moment

open Registry

variable {registry after : Registry} {events : List Event}

theorem restacks_destroyScope
    (reachable : registry.Reachable)
    (document id : String) :
    Restacks document ⟨registry, .destroyScope document id⟩ (registry.scopes.stack document)
      ((registry.destroyScope document id).registry.scopes.stack document) := by
  have consistent := reachable.consistent document
  have around : ∀ other, Ends document other ⟨registry, .destroyScope document id⟩ ↔
      id = other ∨ ∃ outer,
        ParentChain (registry.scopes.entries document) other outer ∧ id ∈ outer := by
    intro other
    rw [← consistent.ancestors_iff]
    exact ⟨And.right, fun ends => ⟨rfl, ends⟩⟩
  cases found : registry.scopes.get? document (some id) with
  | none =>
      have absent : ∀ scope, (registry.scopes.entries document).get? id ≠ some scope := by
        intro scope stored
        exact Option.some_ne_none scope (stored.symm.trans found)
      refine restacks_of_eq (by rw [destroyScope_of_missing found]; rfl) rfl
        fun other active ends => ?_
      rcases (around other).mp ends with rfl | ⟨outer, chain, inside⟩
      · obtain ⟨scope, stored⟩ := (ScopeTree.has_some_eq_true_iff _ _ _).mp
          (reachable.has_of_active active)
        exact absent scope stored
      · obtain ⟨scope, stored⟩ := chain.stored_of_mem (List.mem_cons_of_mem other inside)
        exact absent scope stored
  | some scope =>
      have destruction := consistent.destruction found
      have keyed := (consistent.forest.proper id scope found).keyed
      refine restacks_filter
        (fun other => decide (other ∈ (registry.destroyScope document id).result)) rfl ?_
        fun other active => ?_
      · rw [destruction.active]
        exact List.filter_congr fun other _ => decide_not
      · rw [decide_eq_true_iff, destruction.whole, keyed, around]
        constructor
        · rintro ⟨outer, chain, inside⟩
          exact (List.mem_cons.mp inside).imp_right fun further => ⟨outer, chain, further⟩
        · rintro (rfl | ⟨outer, chain, inside⟩)
          · obtain ⟨held, stored⟩ := (ScopeTree.has_some_eq_true_iff _ _ _).mp
              (reachable.has_of_active active)
            obtain ⟨outer, chain⟩ := consistent.forest.grounded id held stored
            exact ⟨outer, chain, List.mem_cons_self⟩
          · exact ⟨outer, chain, List.mem_cons_of_mem other inside⟩

theorem restacks_enterScope
    (registry : Registry)
    (document : String)
    (scopeId : Option String) :
    Restacks document ⟨registry, .enterScope document scopeId⟩ (registry.scopes.stack document)
      ((registry.enterScope document scopeId).registry.scopes.stack document) := by
  have kept : ∀ id, ¬ Ends document id ⟨registry, .enterScope document scopeId⟩ := fun _ => id
  cases result : (registry.enterScope document scopeId).result with
  | false =>
      refine restacks_of_eq ?_ (by simp [entered?, result]) fun id _ => kept id
      unfold enterScope at result ⊢
      split at result
      · cases result
      · rfl
  | true =>
      unfold enterScope at result
      split at result
      · rename_i inner stored
        have entered : entered? document ⟨registry, .enterScope document (some inner)⟩ =
            some inner := by
          simp [entered?, enterScope, stored]
        refine ⟨(registry.scopes.stack document).filter (· ≠ inner), List.filter_sublist,
          fun id => ?_, ?_⟩
        · rw [entered, List.mem_filter]
          simp only [decide_eq_true_eq, ne_eq, Option.some.injEq]
          exact and_congr_right fun _ =>
            ⟨fun apart => ⟨fun same => apart same.symm, kept id⟩, fun both same => both.1 same.symm⟩
        · rw [entered, show (registry.enterScope document (some inner)).registry.scopes =
            registry.scopes.enter document inner by simp only [enterScope, stored]]
          exact (ScopeTree.stack_setStack _ _ _ _).trans (if_pos rfl)
      · cases result

theorem restacks_exitScope (registry : Registry) (document id : String) :
    Restacks document ⟨registry, .exitScope document id⟩ (registry.scopes.stack document)
      ((registry.exitScope document id).registry.scopes.stack document) := by
  have ends : ∀ other, Ends document other ⟨registry, .exitScope document id⟩ ↔ id = other :=
    fun other => ⟨And.right, fun same => ⟨rfl, same⟩⟩
  unfold exitScope
  split
  · refine restacks_filter (fun other => decide (other = id)) rfl ?_ fun other _ => ?_
    · refine (ScopeTree.stack_setStack _ _ _ _).trans ((if_pos rfl).trans ?_)
      exact List.filter_congr fun other _ => decide_not
    · rw [ends, decide_eq_true_iff]
      exact eq_comm
  · rename_i inactive
    refine restacks_of_eq rfl rfl fun other active => ?_
    rw [ends]
    rintro rfl
    exact inactive (List.elem_iff.mpr active)

theorem restacks_clearDocument (registry : Registry) (document : String) :
    Restacks document ⟨registry, .clearDocument document⟩ (registry.scopes.stack document)
      ((registry.clearDocument document).registry.scopes.stack document) := by
  refine restacks_filter (fun _ => true) rfl ?_ fun _ _ => ⟨fun _ => rfl, fun _ => rfl⟩
  refine (ScopeTree.stack_setStack _ _ _ _).trans ((if_pos rfl).trans ?_)
  exact (List.filter_eq_nil_iff.mpr fun _ _ => Bool.false_ne_true).symm

/-- An operation leaves the stacks of other documents alone, and enters and ends nothing there. -/
theorem restacks_elsewhere
    {document : String}
    (operation : Operation)
    (accepted : operation.effect registry = .ok (after, events))
    (apart : operation.document ≠ document) :
    Restacks document ⟨registry, operation⟩ (registry.scopes.stack document)
      (after.scopes.stack document) := by
  have agrees := agreesOn_of_without apart (without_of_effect operation accepted)
  refine restacks_of_eq agrees.scopes.stack ?_ fun id _ => ?_
  · cases operation with
    | enterScope other scopeId => exact if_neg fun both => apart both.1
    | _ => rfl
  · cases operation with
    | destroyScope other scopeId => exact fun ends => apart ends.1
    | exitScope other scopeId => exact fun ends => apart ends.1
    | clearDocument other => exact apart
    | _ => exact fun ends => ends

/-- What is carried out on a registry restacks every document. -/
theorem restacks_of_effect
    (reachable : registry.Reachable)
    (operation : Operation)
    (accepted : operation.effect registry = .ok (after, events))
    (document : String) :
    Restacks document ⟨registry, operation⟩ (registry.scopes.stack document)
      (after.scopes.stack document) := by
  by_cases here : operation.document = document
  · subst here
    cases operation with
    | declare space document symbol =>
        cases accepted
        exact restacks_of_eq (stack_declare registry space document symbol) rfl fun _ _ => id
    | revise space document name scopeId fields =>
        cases accepted
        refine restacks_of_eq ?_ rfl fun _ _ => id
        exact congrArg (ScopeTree.stack · document)
          (scopes_revise registry space document name scopeId fields)
    | remove space document name scopeId =>
        cases accepted
        exact restacks_of_eq (stack_remove registry space document name scopeId) rfl fun _ _ => id
    | clearSymbols space document =>
        cases accepted
        exact restacks_of_eq (stack_clearSymbols registry space document) rfl fun _ _ => id
    | createScope document scope =>
        rw [Operation.effect] at accepted
        cases created : registry.createScope document scope with
        | error fault => simp [created, Except.map] at accepted
        | ok change =>
            rw [created] at accepted
            cases accepted
            exact restacks_of_eq (stack_createScope created) rfl fun _ _ => id
    | destroyScope document id =>
        cases accepted
        exact restacks_destroyScope reachable document id
    | enterScope document scopeId =>
        cases accepted
        exact restacks_enterScope registry document scopeId
    | exitScope document id =>
        cases accepted
        exact restacks_exitScope registry document id
    | clearDocument document =>
        cases accepted
        exact restacks_clearDocument registry document
  · exact restacks_elsewhere operation accepted here

end Moment

/-! ## Runs -/

namespace Dispatch

/-- A stack tells which scopes of a document were entered and not ended since, and in which order
they were entered. -/
structure Tells (history : List Moment) (document : String) (stack : List String) : Prop where
  /-- No scope stands on the stack twice. -/
  once : stack.Nodup
  /-- The scopes on the stack are those that were entered and not ended since. -/
  active : ∀ id, id ∈ stack ↔ ∃ place, EnteredAt history document id place
  /-- Of two scopes the one that was entered first stands first. -/
  ordered : stack.Pairwise fun lower upper => ∀ first second,
    EnteredAt history document lower first → EnteredAt history document upper second →
      first < second

theorem tells_nil (document : String) : Tells [] document [] where
  once := .nil
  active := by
    intro id
    constructor
    · intro active
      cases active
    · rintro ⟨place, entered⟩
      exact (not_enteredAt_nil entered).elim
  ordered := .nil

/-- A stack goes on telling the history when it is restacked. -/
theorem Tells.append
    {history : List Moment}
    {document : String}
    {moment : Moment}
    {before after : List String}
    (tells : Tells history document before)
    (restacks : moment.Restacks document before after) :
    Tells (history ++ [moment]) document after := by
  obtain ⟨kept, sublist, stays, rfl⟩ := restacks
  -- A scope that stays was entered where it was entered before.
  have same : ∀ id ∈ kept, ∀ place, EnteredAt (history ++ [moment]) document id place →
      EnteredAt history document id place := by
    intro id stayed place entered
    rcases (enteredAt_append_iff history moment document id place).mp entered with
      ⟨-, again⟩ | ⟨earlier, -⟩
    · exact (((stays id).mp stayed).2.1 again).elim
    · exact earlier
  constructor
  case once =>
    refine List.nodup_append.mpr ⟨tells.once.sublist sublist, ?_, fun id stayed top entered => ?_⟩
    · cases moment.entered? document <;> simp
    · rintro rfl
      exact ((stays id).mp stayed).2.1 (Option.mem_toList.mp entered)
  case active =>
    intro id
    rw [List.mem_append, Option.mem_toList, stays, tells.active, or_comm]
    simp only [enteredAt_append_iff, exists_or, exists_and_right, exists_eq, true_and]
  case ordered =>
    refine List.pairwise_append.mpr ⟨?_, ?_, fun lower stayed upper entered => ?_⟩
    · refine (tells.ordered.sublist sublist).imp_of_mem fun lowerStayed upperStayed ordered => ?_
      exact fun first second lowerAt upperAt =>
        ordered first second (same _ lowerStayed _ lowerAt) (same _ upperStayed _ upperAt)
    · cases moment.entered? document <;> simp
    · intro first second lowerAt upperAt
      obtain ⟨entering, found, -⟩ := (same lower stayed first lowerAt).enters
      have before := (List.getElem?_eq_some_iff.mp found).1
      rcases (enteredAt_append_iff history moment document upper second).mp upperAt with
        ⟨rfl, -⟩ | ⟨-, notAgain, -⟩
      · exact before
      · exact (notAgain (Option.mem_toList.mp entered)).elim

/-- In every run the stack of a document tells the history. -/
theorem Chronicle.tells
    {history : List Moment}
    {dispatch : Dispatch}
    (chronicle : Chronicle history dispatch)
    (document : String) :
    Tells history document (dispatch.registry.scopes.stack document) := by
  induction chronicle with
  | start => exact tells_nil document
  | operate past operation accepted tells =>
      exact tells.append
        (Moment.restacks_of_effect past.reachable.registry operation accepted document)
  | clearAll past tells => exact tells
  | @clear history registry cleared tasks past tells =>
      exact tells.append
        (Moment.restacks_of_effect past.reachable.registry (.clearDocument cleared) rfl document)
  | told past tells => exact tells

end Dispatch

/-- The active scopes of a document tell the history, and nothing but entering, leaving, destroying
and clearing scopes changes them. -/
structure Registry.ActiveSince
    (registry : Registry)
    (history : List Moment)
    (document : String) :
    Prop extends Dispatch.Tells history document (registry.scopes.stack document) where
  /-- The active scopes are stored. -/
  stored : ∀ id ∈ registry.scopes.stack document, registry.scopes.has document (some id) = true
  /-- The current scope is the last one. -/
  current : registry.scopes.current? document = (registry.scopes.stack document).getLast?
  /-- Creating a scope, or moving one that is active, leaves the stack as it is. -/
  created : ∀ other scope change, registry.createScope other scope = .ok change →
    change.registry.scopes.stack document = registry.scopes.stack document
  /-- A scope that was ended and not entered since is inactive, even if it is stored again. -/
  ended : ∀ (place : Nat) (moment : Moment) (id : String),
    history[place]? = some moment → moment.Ends document id →
    (∀ (later : Nat) (other : Moment), place < later → history[later]? = some other →
      other.entered? document ≠ some id) →
    id ∉ registry.scopes.stack document

/-- In every run the active scopes of every document are those that were entered and not ended
since, in the order in which they were last entered. -/
theorem Dispatch.Chronicle.activeSince
    {history : List Moment}
    {dispatch : Dispatch}
    (chronicle : Chronicle history dispatch)
    (document : String) :
    dispatch.registry.ActiveSince history document where
  toTells := chronicle.tells document
  stored := fun _ active => chronicle.reachable.registry.has_of_active active
  current := rfl
  created := by
    intro other scope change created
    by_cases here : other = document
    · subst here
      exact Registry.stack_createScope created
    · exact ((Registry.changesOnly_createScope created).agreesOn here).scopes.stack
  ended := by
    intro place moment id found ends since active
    obtain ⟨entry, ⟨entering, entryFound, enters⟩, after⟩ :=
      ((chronicle.tells document).active id).mp active
    rcases Nat.lt_trichotomy entry place with before | rfl | later
    · exact (after place moment before found).2 ends
    · cases entryFound.symm.trans found
      unfold Moment.entered? at enters
      unfold Moment.Ends at ends
      split at enters
      · rename_i isEnter
        rw [isEnter] at ends
        exact ends
      · cases enters
    · exact since entry entering later entryFound enters

/-- A loop is moved out of a body before the body is destroyed, and another scope is entered
twice. -/
def Operation.wandering : List Operation :=
  [.createScope "main" (.fresh "body" .function none none),
    .createScope "main" (.fresh "loop" .loop (some "body") none),
    .createScope "main" (.fresh "side" .function none none),
    .enterScope "main" (some "side"),
    .enterScope "main" (some "loop"),
    .enterScope "main" (some "body"),
    .enterScope "main" (some "side"),
    .createScope "main" (.fresh "loop" .loop none none),
    .destroyScope "main" "body",
    .createScope "main" (.fresh "body" .function none none)]

/-- The loop and the other scope are active, the body that was created again is not. -/
theorem Dispatch.activeSince_while_wandering :
    Chronicle (recording Operation.wandering).1 (recording Operation.wandering).2 ∧
      (recording Operation.wandering).2.registry.scopes.stack "main" = ["loop", "side"] ∧
      (recording Operation.wandering).2.registry.scopes.has "main" (some "body") = true ∧
      (recording Operation.wandering).2.registry.ActiveSince (recording Operation.wandering).1
        "main" :=
  ⟨chronicle_recording _, by decide +kernel, by decide +kernel,
    Chronicle.activeSince (chronicle_recording _) "main"⟩

end LuauNodes
