import LuauNodes.Proofs.Registry.Descent
import Mathlib.Data.List.Perm.Subperm

/-!
# Walks through broken stores

The walks from a scope to its ancestors and to its descendants come to an end in
every store, also where pointers to parents lead nowhere or in a circle and where
links to children do.  On the way up no scope is passed twice, so that the way
is no longer than the store; it fails exactly if the pointers come back to a
scope that they passed, and names the first such scope.  The way down finds what
links lead to, and a circle of them only leads to what is found already.
-/

namespace LuauNodes.ScopeTree

variable {scopes : ScopeEntries} {start last parent : String} {chain : List String}

/-! ## Pointers to parents -/

/-- The parent that a stored scope points to, which need not be stored itself. -/
def pointer? (scopes : ScopeEntries) (id : String) : Option String :=
  (scopes.get? id).bind Scope.parentId

/-- Where a number of pointers leads from a scope. -/
def climb (scopes : ScopeEntries) (id : String) : Nat → Option String
  | 0 => some id
  | steps + 1 => (climb scopes id steps).bind (pointer? scopes)

/-- The pointers from a scope come back to a scope on the way, the start included. -/
def Revisits (scopes : ScopeEntries) (id : String) : Prop :=
  ∃ earlier later scope, earlier < later ∧
    climb scopes id earlier = some scope ∧ climb scopes id later = some scope

/-- The first scope that the pointers from a scope come back to. -/
def FirstRevisits (scopes : ScopeEntries) (id scope : String) : Prop :=
  ∃ earlier later, earlier < later ∧
    climb scopes id earlier = some scope ∧ climb scopes id later = some scope ∧
      ∀ steps < later, ∀ before < steps, climb scopes id before ≠ climb scopes id steps

/-- The scopes that the pointers from a scope lead to, from the inside out, and no others. -/
def Leads (scopes : ScopeEntries) (id : String) (outer : List String) : Prop :=
  ∀ steps, outer[steps]? = climb scopes id (steps + 1)

theorem FirstRevisits.revisits {scope : String} (first : FirstRevisits scopes start scope) :
    Revisits scopes start := by
  obtain ⟨earlier, later, before, passed, again, -⟩ := first
  exact ⟨earlier, later, scope, before, passed, again⟩

theorem mem_keys_of_pointer? {id : String} (inside : pointer? scopes id = some parent) :
    id ∈ scopes.keys := by
  obtain ⟨scope, stored, -⟩ := Option.bind_eq_some_iff.mp inside
  exact OrderedMap.mem_keys_of_get?_eq_some stored

/-- Behind the end of the way there is nothing. -/
theorem climb_eq_none_of_le {ended steps : Nat} (none : climb scopes start ended = none)
    (behind : ended ≤ steps) : climb scopes start steps = .none := by
  induction behind with
  | refl => exact none
  | step _ ih => rw [climb, ih, Option.bind_none]

/-! ## The way up -/

/-- The scopes that were passed from a start on, each once, and the last of them. -/
structure Trail (scopes : ScopeEntries) (start : String) (chain : List String) (last : String) :
    Prop where
  places : ∀ steps ≤ chain.length, climb scopes start steps = (start :: chain)[steps]?
  ends : climb scopes start chain.length = some last
  distinct : (start :: chain).Nodup

namespace Trail

theorem here (scopes : ScopeEntries) (start : String) : Trail scopes start [] start where
  places := by
    intro steps within
    obtain rfl := Nat.le_zero.mp within
    rfl
  ends := rfl
  distinct := by simp

/-- A pointer leads one step further than the trail. -/
theorem climb_next (trail : Trail scopes start chain last) :
    climb scopes start (chain.length + 1) = pointer? scopes last := by
  rw [climb, trail.ends, Option.bind_some]

theorem snoc
    (trail : Trail scopes start chain last)
    (inside : pointer? scopes last = some parent)
    (fresh : parent ∉ start :: chain) :
    Trail scopes start (chain ++ [parent]) parent where
  places := by
    intro steps within
    rw [List.length_append, List.length_singleton] at within
    rw [← List.cons_append]
    rcases Nat.le_succ_iff.mp within with before | here
    · rw [trail.places steps before, List.getElem?_append_left]
      exact Nat.lt_succ_of_le before
    · rw [here, trail.climb_next, inside]
      exact (List.getElem?_concat_length (l := start :: chain)).symm
  ends := by
    rw [List.length_append, List.length_singleton, trail.climb_next, inside]
  distinct := by
    rw [← List.cons_append]
    refine List.nodup_append.mpr ⟨trail.distinct, by simp, ?_⟩
    intro passed member other here same
    exact fresh ((same.trans (List.mem_singleton.mp here)) ▸ member)

/-- A trail has no more steps than the store has scopes, as each step leaves another one. -/
theorem length_le_size (trail : Trail scopes start chain last) : chain.length ≤ scopes.size := by
  let passed := (start :: chain).take chain.length
  have stored : passed ⊆ scopes.keys := by
    intro id member
    obtain ⟨steps, within, rfl⟩ := List.mem_take_iff_getElem.mp member
    have inner : steps < chain.length := (Nat.lt_min.mp within).1
    have next := trail.places (steps + 1) inner
    rw [climb, trail.places steps (Nat.le_of_lt inner), List.getElem?_cons_succ,
      List.getElem?_eq_getElem inner, List.getElem?_eq_getElem (Nat.lt_succ_of_lt inner),
      Option.bind_some] at next
    exact mem_keys_of_pointer? next
  have distinct : passed.Nodup := trail.distinct.sublist (List.take_sublist _ _)
  have bound := (List.subperm_of_subset distinct stored).length_le
  rw [List.length_take_of_le (Nat.le_succ _), OrderedMap.keys, List.length_map] at bound
  exact bound

/-- Two places on a trail hold different scopes. -/
theorem climb_ne
    (trail : Trail scopes start chain last)
    {earlier later : Nat}
    (before : earlier < later)
    (within : later ≤ chain.length) :
    climb scopes start earlier ≠ climb scopes start later := by
  rw [trail.places earlier (by omega), trail.places later within]
  intro same
  have equal := (List.getElem?_inj (by rw [List.length_cons]; omega) trail.distinct).mp same
  omega

/-- Where no pointer leads on, the trail is the whole way. -/
theorem leads
    (trail : Trail scopes start chain last)
    (outermost : pointer? scopes last = none) :
    Leads scopes start chain := by
  intro steps
  by_cases within : steps + 1 ≤ chain.length
  · rw [trail.places (steps + 1) within, List.getElem?_cons_succ]
  · have ended : climb scopes start (chain.length + 1) = none := trail.climb_next.trans outermost
    rw [climb_eq_none_of_le ended (by omega), List.getElem?_eq_none (by omega)]

theorem not_revisits
    (trail : Trail scopes start chain last)
    (outermost : pointer? scopes last = none) :
    ¬Revisits scopes start := by
  rintro ⟨earlier, later, scope, before, passed, again⟩
  by_cases within : later ≤ chain.length
  · exact trail.climb_ne before within (passed.trans again.symm)
  · have ended : climb scopes start (chain.length + 1) = none := trail.climb_next.trans outermost
    rw [climb_eq_none_of_le ended (by omega)] at again
    cases again

/-- A pointer from the end of a trail to a scope on it is the first to lead back. -/
theorem firstRevisits
    (trail : Trail scopes start chain last)
    (inside : pointer? scopes last = some parent)
    (passed : parent ∈ start :: chain) :
    FirstRevisits scopes start parent := by
  obtain ⟨place, within, rfl⟩ := List.mem_iff_getElem.mp passed
  rw [List.length_cons] at within
  refine ⟨place, chain.length + 1, within, ?_, trail.climb_next.trans inside, ?_⟩
  · rw [trail.places place (by omega), List.getElem?_eq_getElem]
  · exact fun steps inner before earlier => trail.climb_ne earlier (by omega)

end Trail

/-- Pointers are followed from the last scope of a chain on, without a bound.  The way ends where
none leads on, with the whole chain, or where one leads back, with the scope that was passed. -/
inductive Climbs (scopes : ScopeEntries) (start : String) :
    List String → String → Except String (List String) → Prop where
  | top
      {chain : List String}
      {last : String}
      (outermost : pointer? scopes last = none) :
      Climbs scopes start chain last (.ok chain)
  | back
      {chain : List String}
      {last parent : String}
      (inside : pointer? scopes last = some parent)
      (passed : parent ∈ start :: chain) :
      Climbs scopes start chain last (.error parent)
  | up
      {chain : List String}
      {last parent : String}
      {outcome : Except String (List String)}
      (inside : pointer? scopes last = some parent)
      (fresh : parent ∉ start :: chain)
      (rest : Climbs scopes start (chain ++ [parent]) parent outcome) :
      Climbs scopes start chain last outcome

/-- With a bound that lets every stored scope be passed the way comes to its end. -/
theorem followParents_climbs
    (fuel : Nat)
    (trail : Trail scopes start chain last)
    (enough : scopes.size < fuel + chain.length) :
    Climbs scopes start chain last (followParents scopes start fuel chain last) := by
  induction fuel generalizing chain last with
  | zero =>
      have bound := trail.length_le_size
      omega
  | succ fuel ih =>
      rw [followParents]
      cases inside : (scopes.get? last).bind Scope.parentId with
      | none => exact .top inside
      | some parent =>
          dsimp only
          split
          · rename_i passed
            refine .back inside ?_
            simpa [or_comm] using passed
          · rename_i fresh
            have unpassed : parent ∉ start :: chain := by simpa [and_comm] using fresh
            refine .up inside unpassed (ih (trail.snoc inside unpassed) ?_)
            rw [List.length_append, List.length_singleton]
            omega

/-- What the end of the way says about the pointers. -/
def Tells (scopes : ScopeEntries) (start : String) : Except String (List String) → Prop
  | .ok outer => Leads scopes start outer ∧ ¬Revisits scopes start
  | .error scope => FirstRevisits scopes start scope

theorem Climbs.tells
    {outcome : Except String (List String)}
    (climbs : Climbs scopes start chain last outcome)
    (trail : Trail scopes start chain last) :
    Tells scopes start outcome := by
  induction climbs with
  | top outermost => exact ⟨trail.leads outermost, trail.not_revisits outermost⟩
  | back inside passed => exact trail.firstRevisits inside passed
  | up inside fresh _ ih => exact ih (trail.snoc inside fresh)

/-- What the walk up from a scope does. -/
structure ClimbsSafely (tree : ScopeTree) (document id : String) : Prop where
  /-- The way up comes to an end, and with what it ends is the answer. -/
  up : ∃ outcome, Climbs (tree.entries document) id [] id outcome ∧
    tree.ancestors document id = outcome.mapError (.cycle document)
  /-- The way up fails exactly if the pointers come back to a scope. -/
  fails : (∃ scope, tree.ancestors document id = .error (.cycle document scope)) ↔
    Revisits (tree.entries document) id
  /-- A failure names the first scope that they come back to. -/
  first : ∀ fault, tree.ancestors document id = .error fault →
    ∃ scope, fault = .cycle document scope ∧ FirstRevisits (tree.entries document) id scope
  /-- Otherwise the scopes that they lead to are found, a missing one at the end included. -/
  finds : ¬Revisits (tree.entries document) id →
    ∃ outer, tree.ancestors document id = .ok outer ∧ Leads (tree.entries document) id outer

/-- The ancestors of a scope are what the way up ends with. -/
theorem exists_climbs (tree : ScopeTree) (document id : String) :
    ∃ outcome, Climbs (tree.entries document) id [] id outcome ∧
      tree.ancestors document id = outcome.mapError (.cycle document) := by
  refine ⟨_, followParents_climbs ((tree.entries document).size + 1) (.here _ id)
    (Nat.lt_succ_self _), ?_⟩
  rw [ancestors]
  cases followParents (tree.entries document) id ((tree.entries document).size + 1) [] id <;> rfl

theorem climbsSafely (tree : ScopeTree) (document id : String) :
    ClimbsSafely tree document id := by
  obtain ⟨outcome, climbs, answer⟩ := exists_climbs tree document id
  have tells : Tells (tree.entries document) id outcome := climbs.tells (.here _ id)
  cases outcome with
  | ok outer =>
      obtain ⟨leads, straight⟩ := tells
      exact
        { up := ⟨_, climbs, answer⟩
          fails := iff_of_false (by rw [answer]; exact nofun) straight
          first := fun fault failed => nomatch answer.symm.trans failed
          finds := fun _ => ⟨outer, answer, leads⟩ }
  | error scope =>
      have revisits := tells.revisits
      refine
        { up := ⟨_, climbs, answer⟩
          fails := iff_of_true ⟨scope, answer⟩ revisits
          first := fun fault failed => ⟨scope, ?_, tells⟩
          finds := fun straight => absurd revisits straight }
      exact Except.error.inj (failed.symm.trans answer)

/-! ## Both walks -/

/-- What the walks from a scope do. -/
structure WalksSafely (tree : ScopeTree) (document id : String) : Prop
    extends ClimbsSafely tree document id where
  /-- The way down comes to an end, and what is found by then is the answer. -/
  down : Exhausts (tree.entries document) [id] [] (tree.descendants document id)
  /-- On the way down is found what child links lead to, and nothing else. -/
  below : ∀ other, other ∈ tree.descendants document id ↔
    IsBelow (tree.entries document) id other
  /-- As children are sets, which list nothing twice, each scope is found once. -/
  once : ChildrenIncreasing (tree.entries document) → (tree.descendants document id).Nodup

/-- The walks from a scope come to their ends with the right answers, whatever is stored. -/
theorem walks_safely (tree : ScopeTree) (document id : String) :
    WalksSafely tree document id where
  toClimbsSafely := climbsSafely tree document id
  down := descendants_exhausts tree document id
  below := fun other => mem_descendants_iff id other
  once := fun increasing => nodup_descendants increasing id

/-- Scopes with their parents and children: two lie inside each other, one lies inside the first of
them, and one inside a scope that is missing. -/
def tangledScopes : List (String × Scope) :=
  [("a", "b", ["b"]), ("b", "a", ["ghost", "a"]), ("c", "a", []), ("e", "ghost", ["e"])].map
    fun (id, parent, children) =>
      (id, { Scope.fresh id .loop (some parent) none with childIds := .ofList children })

/-- A document with these scopes. -/
def tangled : ScopeTree := ⟨.ofList [("d", .ofList tangledScopes)], ∅⟩

theorem childrenIncreasing_tangled : ChildrenIncreasing (tangled.entries "d") := by
  intro id scope stored
  have listed : (id, scope) ∈ tangledScopes := OrderedMap.mem_of_get?_ofList_eq_some stored
  obtain ⟨⟨_, _, children⟩, -, same⟩ := List.mem_map.mp listed
  cases same
  exact NameSet.increasing_ofList children

theorem walks_safely_tangled :
    tangled.ancestors "d" "c" = .error (.cycle "d" "a") ∧ Revisits (tangled.entries "d") "c" ∧
      ¬Revisits (tangled.entries "d") "e" ∧
      (∃ outer, tangled.ancestors "d" "e" = .ok outer ∧ Leads (tangled.entries "d") "e" outer) ∧
      tangled.ancestors "d" "e" = .ok ["ghost"] ∧
      ChildrenIncreasing (tangled.entries "d") ∧
      tangled.descendants "d" "a" = ["b", "a", "ghost"] ∧
      (tangled.descendants "d" "a").Nodup := by
  have circle : tangled.ancestors "d" "c" = .error (.cycle "d" "a") := by rfl
  have dangling : tangled.ancestors "d" "e" = .ok ["ghost"] := by rfl
  have straight : ¬Revisits (tangled.entries "d") "e" := by
    intro revisits
    obtain ⟨scope, failed⟩ := (walks_safely tangled "d" "e").fails.mpr revisits
    rw [dangling] at failed
    cases failed
  exact ⟨circle, (walks_safely tangled "d" "c").fails.mp ⟨"a", circle⟩, straight,
    (walks_safely tangled "d" "e").finds straight, dangling, childrenIncreasing_tangled, by rfl,
    (walks_safely tangled "d" "a").once childrenIncreasing_tangled⟩

end LuauNodes.ScopeTree
