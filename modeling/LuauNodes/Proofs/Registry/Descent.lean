import LuauNodes.Registry.ScopeTree
import Mathlib.Data.List.Basic
import Mathlib.Logic.Relation

/-!
# Scopes below a scope

The breadth-first walk along child links.  Its bound counts the links of the
store.  Every visit takes one scope off the queue, and every scope that is put
on the queue is found by a link that leads to nothing found before, so the walk
ends with an empty queue: it finds what one or more child links lead to, whatever
the store, none before its parent and, as no scope lists a child twice, each once.
-/

namespace LuauNodes.ScopeTree

/-- A stored scope has another among its children. -/
def IsChild (scopes : ScopeEntries) (parent child : String) : Prop :=
  ∃ scope, scopes.get? parent = some scope ∧ child ∈ scope.childIds

/-- One or more child links lead from one scope to another. -/
def IsBelow (scopes : ScopeEntries) : String → String → Prop :=
  Relation.TransGen (IsChild scopes)

/-- No scope lists a child twice. -/
def ChildrenIncreasing (scopes : ScopeEntries) : Prop :=
  scopes.Everywhere fun _ scope => scope.childIds.Increasing

/-- Every child link of a store, by the scope that it leads to. -/
def links (scopes : ScopeEntries) : List String :=
  scopes.values.flatMap fun scope => scope.childIds.toList

/-- The links to scopes that are not found yet. -/
def openLinks (scopes : ScopeEntries) (found : List String) : List String :=
  (links scopes).filter fun child => !found.contains child

/-- The children of a scope that are not found yet. -/
def freshChildren (found : List String) (scope : Scope) : List String :=
  scope.childIds.toList.filter fun child => !found.contains child

attribute [grind =] visitChildren

variable {scopes : ScopeEntries}

theorem linkCount_eq_length_links (scopes : ScopeEntries) :
    linkCount scopes = (links scopes).length := by
  have accumulate : ∀ (values : List Scope) (total : Nat),
      values.foldl (fun total scope => total + scope.childIds.toList.length) total =
        total + (values.flatMap fun scope => scope.childIds.toList).length := by
    intro values
    induction values with
    | nil => simp
    | cons first rest ih =>
        intro total
        rw [List.foldl_cons, ih, List.flatMap_cons, List.length_append]
        omega
  rw [linkCount, accumulate, links, Nat.zero_add]

theorem mem_freshChildren
    {found : List String}
    {scope : Scope}
    {child : String} :
    child ∈ freshChildren found scope ↔ child ∈ scope.childIds ∧ child ∉ found := by
  rw [freshChildren, List.mem_filter]
  simp only [NameSet.toList, Bool.not_eq_true', List.contains_eq_mem, decide_eq_false_iff_not]
  rfl

/-- Finding the fresh children of a scope closes at least as many links. -/
theorem length_openLinks_append_fresh
    {id : String}
    {scope : Scope}
    (stored : scopes.get? id = some scope)
    (found : List String) :
    (openLinks scopes (found ++ freshChildren found scope)).length +
        (freshChildren found scope).length ≤
      (openLinks scopes found).length := by
  let fresh := freshChildren found scope
  have linked : scope.childIds.toList.Sublist (links scopes) :=
    List.sublist_flatten_of_mem
      (List.mem_map_of_mem (OrderedMap.mem_values_of_get?_eq_some stored))
  have inside : (fresh.filter fun child => fresh.contains child).Sublist
      ((openLinks scopes found).filter fun child => fresh.contains child) :=
    (linked.filter _).filter _
  have all : (fresh.filter fun child => fresh.contains child) = fresh :=
    List.filter_eq_self.mpr (by simp)
  rw [all] at inside
  have closed := inside.length_le
  have remaining : openLinks scopes (found ++ fresh) =
      (openLinks scopes found).filter fun child => !fresh.contains child := by
    simp only [openLinks, List.filter_filter]
    congr 1
    funext child
    simp [Bool.and_comm]
  have split := List.length_eq_length_filter_add
    (l := openLinks scopes found) (fun child => fresh.contains child)
  show (openLinks scopes (found ++ fresh)).length + fresh.length ≤ _
  rw [remaining]
  omega

/-! ## The end of the walk -/

/-- Scopes are taken off a queue one after the other, without a bound, and the fresh children of
each are found and put on the queue.  In the end the queue is empty, and the result is found. -/
inductive Exhausts (scopes : ScopeEntries) : List String → List String → List String → Prop where
  | done (found : List String) : Exhausts scopes [] found found
  | skip
      {id : String}
      {queue found result : List String}
      (missing : scopes.get? id = none)
      (rest : Exhausts scopes queue found result) :
      Exhausts scopes (id :: queue) found result
  | visit
      {id : String}
      {scope : Scope}
      {queue found result : List String}
      (stored : scopes.get? id = some scope)
      (rest : Exhausts scopes (queue ++ freshChildren found scope)
        (found ++ freshChildren found scope) result) :
      Exhausts scopes (id :: queue) found result

/-- A walk has one end. -/
theorem Exhausts.unique
    {queue found result other : List String}
    (exhausts : Exhausts scopes queue found result)
    (again : Exhausts scopes queue found other) :
    result = other := by
  induction exhausts with
  | done found =>
      cases again with
      | done _ => rfl
  | skip missing _ ih =>
      cases again with
      | skip _ rest => exact ih rest
      | visit stored _ => rw [missing] at stored; cases stored
  | visit stored _ ih =>
      cases again with
      | skip missing _ => rw [stored] at missing; cases missing
      | visit storedAgain rest =>
          rw [stored, Option.some.injEq] at storedAgain
          subst storedAgain
          exact ih rest

/-- With a bound that counts the queue and the open links the walk comes to its end. -/
theorem visitChildren_exhausts
    (fuel : Nat)
    (queue found : List String)
    (enough : queue.length + (openLinks scopes found).length ≤ fuel) :
    Exhausts scopes queue found (visitChildren scopes fuel queue found) := by
  induction fuel generalizing queue found with
  | zero =>
      have emptied : queue = [] := List.eq_nil_of_length_eq_zero (by omega)
      subst emptied
      exact .done found
  | succ fuel ih =>
      cases queue with
      | nil => exact .done found
      | cons next queue =>
          rw [List.length_cons] at enough
          cases stored : scopes.get? next with
          | none =>
              rw [visitChildren, stored]
              exact .skip stored (ih queue found (by omega))
          | some scope =>
              rw [visitChildren, stored]
              have closed := length_openLinks_append_fresh stored found
              refine .visit stored (ih _ _ ?_)
              rw [List.length_append]
              omega

/-- A bound beyond what the walk needs changes nothing. -/
theorem visitChildren_add
    (fuel more : Nat)
    (queue found : List String)
    (enough : queue.length + (openLinks scopes found).length ≤ fuel) :
    visitChildren scopes (fuel + more) queue found = visitChildren scopes fuel queue found :=
  (visitChildren_exhausts (fuel + more) queue found (by omega)).unique
    (visitChildren_exhausts fuel queue found enough)

/-! ## What the walk finds -/

/-- What a walk that has found some scopes makes of its queue. -/
structure Walk (scopes : ScopeEntries) (queue found result : List String) : Prop where
  kept : found ⊆ result
  distinct : ChildrenIncreasing scopes → found.Nodup → result.Nodup
  sound : ∀ id ∈ result, id ∈ found ∨ ∃ start ∈ queue, IsBelow scopes start id
  visited : ∀ start ∈ queue, ∀ child, IsChild scopes start child → child ∈ result
  closed : ∀ id ∈ result, id ∉ found → ∀ child, IsChild scopes id child → child ∈ result

theorem Walk.done (found : List String) : Walk scopes [] found found where
  kept := List.Subset.refl found
  distinct := fun _ distinctFound => distinctFound
  sound := fun _ member => Or.inl member
  visited := by simp
  closed := fun _ member fresh => absurd member fresh

/-- A scope that is not stored has no children to find. -/
theorem Walk.skip
    {id : String}
    {queue found result : List String}
    (missing : scopes.get? id = none)
    (walk : Walk scopes queue found result) :
    Walk scopes (id :: queue) found result where
  kept := walk.kept
  distinct := walk.distinct
  sound := by
    intro other member
    rcases walk.sound other member with old | ⟨start, queued, below⟩
    · exact Or.inl old
    · exact Or.inr ⟨start, List.mem_cons_of_mem id queued, below⟩
  visited := by
    intro start queued child isChild
    rcases List.mem_cons.mp queued with here | later
    · rcases isChild with ⟨scope, stored, _⟩
      rw [here, missing] at stored
      cases stored
    · exact walk.visited start later child isChild
  closed := walk.closed

/-- Visiting a stored scope puts its fresh children on the queue. -/
theorem Walk.visit
    {id : String}
    {scope : Scope}
    {queue found result : List String}
    (stored : scopes.get? id = some scope)
    (walk : Walk scopes (queue ++ freshChildren found scope)
      (found ++ freshChildren found scope) result) :
    Walk scopes (id :: queue) found result where
  kept := fun _ member => walk.kept (List.mem_append_left _ member)
  distinct := by
    intro increasing distinctFound
    have distinctChildren := (increasing id scope stored).nodup_toList
    apply walk.distinct increasing
    refine List.nodup_append.mpr
      ⟨distinctFound, distinctChildren.sublist List.filter_sublist, ?_⟩
    intro left old right fresh equal
    exact (mem_freshChildren.mp fresh).2 (equal ▸ old)
  sound := by
    intro other member
    rcases walk.sound other member with known | ⟨start, queued, below⟩
    · rcases List.mem_append.mp known with old | fresh
      · exact Or.inl old
      · have child : IsChild scopes id other := ⟨scope, stored, (mem_freshChildren.mp fresh).1⟩
        exact Or.inr ⟨id, List.mem_cons_self, .single child⟩
    · rcases List.mem_append.mp queued with old | fresh
      · exact Or.inr ⟨start, List.mem_cons_of_mem id old, below⟩
      · have child : IsChild scopes id start := ⟨scope, stored, (mem_freshChildren.mp fresh).1⟩
        exact Or.inr ⟨id, List.mem_cons_self, .head child below⟩
  visited := by
    intro start queued child isChild
    rcases List.mem_cons.mp queued with here | later
    · subst here
      rcases isChild with ⟨other, found', member⟩
      rw [stored, Option.some.injEq] at found'
      subst found'
      by_cases old : child ∈ found
      · exact walk.kept (List.mem_append_left _ old)
      · exact walk.kept (List.mem_append_right _ (mem_freshChildren.mpr ⟨member, old⟩))
    · exact walk.visited start (List.mem_append_left _ later) child isChild
  closed := by
    intro other member unfound child isChild
    by_cases fresh : other ∈ freshChildren found scope
    · exact walk.visited other (List.mem_append_right _ fresh) child isChild
    · refine walk.closed other member ?_ child isChild
      intro known
      rcases List.mem_append.mp known with old | new
      · exact unfound old
      · exact fresh new

/-- A walk that came to its end has found what its queue leads to. -/
theorem Exhausts.walk
    {queue found result : List String}
    (exhausts : Exhausts scopes queue found result) :
    Walk scopes queue found result := by
  induction exhausts with
  | done found => exact Walk.done found
  | skip missing _ ih => exact Walk.skip missing ih
  | visit stored _ ih => exact Walk.visit stored ih

/-- The walk sees nothing but the children of the scopes that it comes to. -/
theorem visitChildren_congr
    {others : ScopeEntries}
    {inside : String → Prop}
    (closed : ∀ id child, inside id → IsChild scopes id child → inside child)
    (same : ∀ id, inside id →
      (others.get? id).map Scope.childIds = (scopes.get? id).map Scope.childIds)
    (fuel : Nat)
    (queue found : List String)
    (queued : ∀ id ∈ queue, inside id) :
    visitChildren others fuel queue found = visitChildren scopes fuel queue found := by
  induction fuel generalizing queue found with
  | zero => simp [visitChildren]
  | succ fuel ih =>
      cases queue with
      | nil => simp [visitChildren]
      | cons next queue =>
          have here := queued next List.mem_cons_self
          have later : ∀ id ∈ queue, inside id := fun id member =>
            queued id (List.mem_cons_of_mem next member)
          have alike := same next here
          cases stored : scopes.get? next with
          | none =>
              rw [stored, Option.map_none, Option.map_eq_none_iff] at alike
              rw [visitChildren, visitChildren, stored, alike]
              exact ih queue found later
          | some scope =>
              rw [stored, Option.map_some, Option.map_eq_some_iff] at alike
              obtain ⟨other, otherAt, children⟩ := alike
              rw [visitChildren, visitChildren, stored, otherAt]
              dsimp only
              rw [children]
              refine ih _ _ fun id member => ?_
              rcases List.mem_append.mp member with before | fresh
              · exact later id before
              · exact closed next id here ⟨scope, stored, (mem_freshChildren.mp fresh).1⟩

/-! ## The order of the walk -/

/-- A list of scopes below a start in which every scope comes after a scope that has it as a
child. -/
inductive ParentsFirst (scopes : ScopeEntries) (start : String) : List String → Prop where
  | nil : ParentsFirst scopes start []
  | snoc
      {found : List String}
      {parent child : String}
      (first : ParentsFirst scopes start found)
      (known : parent ∈ start :: found)
      (isChild : IsChild scopes parent child) :
      ParentsFirst scopes start (found ++ [child])

theorem ParentsFirst.append_children
    {start parent : String}
    {found children : List String}
    (first : ParentsFirst scopes start found)
    (known : parent ∈ start :: found)
    (areChildren : ∀ child ∈ children, IsChild scopes parent child) :
    ParentsFirst scopes start (found ++ children) := by
  induction children generalizing found with
  | nil => exact (List.append_nil found).symm ▸ first
  | cons child rest ih =>
      rw [List.append_cons]
      refine ih (first.snoc known (areChildren child List.mem_cons_self)) ?_ ?_
      · exact List.mem_append_left [child] known
      · exact fun other member => areChildren other (List.mem_cons_of_mem child member)

/-- From a scope that was found, the walk finds no scope before its parent. -/
theorem visitChildren_parentsFirst
    {start : String}
    (fuel : Nat)
    {queue found : List String}
    (known : queue ⊆ start :: found)
    (first : ParentsFirst scopes start found) :
    ParentsFirst scopes start (visitChildren scopes fuel queue found) := by
  induction fuel generalizing queue found with
  | zero => exact first
  | succ fuel ih =>
      cases queue with
      | nil => exact first
      | cons next queue =>
          have later : queue ⊆ start :: found := fun _ member =>
            known (List.mem_cons_of_mem next member)
          cases stored : scopes.get? next with
          | none =>
              rw [visitChildren, stored]
              exact ih later first
          | some scope =>
              rw [visitChildren, stored]
              refine ih (List.append_subset.mpr ⟨?_, ?_⟩)
                (first.append_children (known List.mem_cons_self) ?_)
              · exact fun _ member => List.mem_append_left _ (later member)
              · exact fun _ member => List.mem_cons_of_mem start (List.mem_append_right _ member)
              · exact fun child fresh => ⟨scope, stored, (mem_freshChildren.mp fresh).1⟩

/-- Every scope of the list stands behind some scope that has it as a child. -/
theorem ParentsFirst.exists_sublist
    {start child : String}
    {found : List String}
    (first : ParentsFirst scopes start found)
    (member : child ∈ found) :
    ∃ parent, IsChild scopes parent child ∧ [parent, child].Sublist (start :: found) := by
  induction first with
  | nil => cases member
  | @snoc found parent last first known isChild ih =>
      rcases List.mem_append.mp member with before | here
      · obtain ⟨other, otherChild, ordered⟩ := ih before
        exact ⟨other, otherChild, ordered.trans (List.sublist_append_left _ [last])⟩
      · rw [List.mem_singleton.mp here]
        exact ⟨parent, isChild,
          (List.singleton_sublist.mpr known).append (List.Sublist.refl [last])⟩

section Descendants

variable {tree : ScopeTree} {document : String}

/-- The walk below a scope comes to its end, whatever the store. -/
theorem descendants_exhausts (tree : ScopeTree) (document id : String) :
    Exhausts (tree.entries document) [id] [] (tree.descendants document id) := by
  apply visitChildren_exhausts
  have all : openLinks (tree.entries document) [] = links (tree.entries document) := by
    simp [openLinks]
  rw [all, linkCount_eq_length_links]
  simp [Nat.add_comm]

/-- The walk below a scope finds what child links lead to, and nothing else. -/
theorem mem_descendants_iff (id other : String) :
    other ∈ tree.descendants document id ↔ IsBelow (tree.entries document) id other := by
  have walk := (descendants_exhausts tree document id).walk
  constructor
  · intro member
    rcases walk.sound other member with none | ⟨start, here, below⟩
    · cases none
    · rw [List.mem_singleton.mp here] at below
      exact below
  · intro below
    induction below with
    | single child => exact walk.visited id List.mem_cons_self _ child
    | tail _ child ih => exact walk.closed _ ih List.not_mem_nil _ child

/-- What lies below a scope stays as long as the children there do. -/
theorem descendants_congr
    {after : ScopeTree}
    (id : String)
    (same : ∀ other, other = id ∨ IsBelow (tree.entries document) id other →
      ((after.entries document).get? other).map Scope.childIds =
        ((tree.entries document).get? other).map Scope.childIds) :
    after.descendants document id = tree.descendants document id := by
  -- The bounds of the two walks may differ, so both are brought to one that is enough for both.
  have raised : ∀ (scopes : ScopeEntries) (more : Nat),
      visitChildren scopes (linkCount scopes + 1) [id] [] =
        visitChildren scopes (linkCount scopes + 1 + more) [id] [] := by
    intro scopes more
    refine (visitChildren_add _ more [id] [] ?_).symm
    have all : openLinks scopes [] = links scopes := by simp [openLinks]
    rw [all, linkCount_eq_length_links, List.length_singleton]
    omega
  rw [descendants, descendants, raised _ (linkCount (tree.entries document) + 1),
    raised _ (linkCount (after.entries document) + 1), Nat.add_comm]
  refine visitChildren_congr ?_ same _ _ _ ?_
  · rintro parent child (rfl | below) isChild
    · exact Or.inr (.single isChild)
    · exact Or.inr (.tail below isChild)
  · exact fun other here => Or.inl (List.mem_singleton.mp here)

/-- The walk finds every scope once. -/
theorem nodup_descendants
    (increasing : ChildrenIncreasing (tree.entries document))
    (id : String) :
    (tree.descendants document id).Nodup :=
  (descendants_exhausts tree document id).walk.distinct increasing List.nodup_nil

/-- The walk finds no scope before its parent. -/
theorem descendants_parentsFirst (tree : ScopeTree) (document id : String) :
    ParentsFirst (tree.entries document) id (tree.descendants document id) :=
  visitChildren_parentsFirst _ (List.Subset.refl [id]) .nil

end Descendants

end LuauNodes.ScopeTree
