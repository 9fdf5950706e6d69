import LuauNodes.Expression.Check
import LuauNodes.Proofs.Expression.Balancing
import LuauNodes.Proofs.Expression.Meaning
import LuauNodes.Proofs.Expression.TokenPlaces

/-!
# Warnings about names

What is checked of an expression is exact.  A text that is none gives its one
fault.  The tree of any other names identifiers, each of which is a token of the
text; where it is known which names are visible, the warnings name those that
are not, each once, in the order in which the text first uses them.  A tree that is
too deep for the walk gives one error instead of warnings, as a long sum shows.
-/

namespace LuauNodes.Expression

variable {text field name : String} {tree : Expr} {visible more : List String}
  {uses : List NameUse} {found : List (Nat × NameUse)}

/-! ## Parts of expressions -/

/-- The expressions of a table field; a key that is written as a name is none. -/
def TableField.parts : TableField → List Expr
  | .keyed key value => [key, value]
  | .named _ value => [value]
  | .positional value => [value]

/-- The expressions of a branch. -/
def Branch.parts : Branch → List Expr
  | .mk condition value => [condition, value]

/-- The expressions directly inside an expression, in the order of the text. -/
def Expr.parts : Expr → List Expr
  | .name _ _ => []
  | .number _ _ => []
  | .string _ _ => []
  | .boolean _ _ => []
  | .nil _ => []
  | .unary _ _ operand => [operand]
  | .binary _ _ left right => [left, right]
  | .field _ target _ => [target]
  | .index _ target key => [target, key]
  | .call _ callee arguments => callee :: arguments
  | .method _ target _ arguments => target :: arguments
  | .table _ fields => fields.flatMap TableField.parts
  | .choice _ branches otherwise => branches.flatMap Branch.parts ++ [otherwise]

/-- An expression is a node of another. -/
inductive Expr.Occurs (inner : Expr) : Expr → Prop where
  | whole : inner.Occurs inner
  | part {outer part : Expr} (member : part ∈ outer.parts) (occurs : inner.Occurs part) :
      inner.Occurs outer

theorem TableField.sizeOf_part
    {field : TableField}
    {part : Expr}
    (member : part ∈ field.parts) :
    sizeOf part < sizeOf field := by
  cases field <;> simp only [TableField.parts, List.mem_cons, List.not_mem_nil, or_false] at member
  case keyed =>
      simp only [TableField.keyed.sizeOf_spec]
      rcases member with rfl | rfl <;> omega
  all_goals
    subst member
    simp

theorem Branch.sizeOf_part
    {branch : Branch}
    {part : Expr}
    (member : part ∈ branch.parts) :
    sizeOf part < sizeOf branch := by
  cases branch
  simp only [Branch.parts, List.mem_cons, List.not_mem_nil, or_false] at member
  simp only [Branch.mk.sizeOf_spec]
  rcases member with rfl | rfl <;> omega

theorem Expr.sizeOf_part
    {outer part : Expr}
    (member : part ∈ outer.parts) :
    sizeOf part < sizeOf outer := by
  cases outer <;> simp only [Expr.parts, List.mem_cons, List.not_mem_nil, or_false,
    List.mem_append, List.mem_flatMap] at member
  case unary =>
      subst member
      simp
  case field =>
      subst member
      simp
      omega
  case binary | index =>
      rcases member with rfl | rfl
      · simp
        omega
      · simp
  case call | method =>
      rcases member with rfl | listed
      · simp
        omega
      · have := List.sizeOf_lt_of_mem listed
        simp
        omega
  case table =>
      obtain ⟨field, listed, inside⟩ := member
      have := List.sizeOf_lt_of_mem listed
      have := TableField.sizeOf_part inside
      simp
      omega
  case choice =>
      rcases member with ⟨branch, listed, inside⟩ | rfl
      · have := List.sizeOf_lt_of_mem listed
        have := Branch.sizeOf_part inside
        simp
        omega
      · simp

/-- What holds of an expression as soon as it holds of its parts holds of all. -/
theorem Expr.induct
    {Holds : Expr → Prop}
    (step : ∀ whole : Expr, (∀ part ∈ whole.parts, Holds part) → Holds whole)
    (whole : Expr) :
    Holds whole :=
  step whole fun part member =>
    have := Expr.sizeOf_part member
    Expr.induct step part
termination_by sizeOf whole

theorem TableField.names_eq (field : TableField) :
    field.names = field.parts.flatMap Expr.names := by
  cases field <;> simp [TableField.names, fieldNames, TableField.parts]

theorem Branch.names_eq (branch : Branch) :
    branch.names = branch.parts.flatMap Expr.names := by
  cases branch
  simp [Branch.names, branchNames, Branch.parts]

/-- The name that an expression is, if it is one. -/
def Expr.ownName : Expr → List NameUse
  | .name span name => [⟨name, span⟩]
  | _ => []

/-- The names of an expression are its own, or those of its parts in turn. -/
theorem Expr.names_eq (tree : Expr) :
    tree.names = tree.ownName ++ tree.parts.flatMap Expr.names := by
  have fields : TableField.names = fun field => field.parts.flatMap Expr.names :=
    funext TableField.names_eq
  have branches : Branch.names = fun branch => branch.parts.flatMap Expr.names :=
    funext Branch.names_eq
  cases tree <;>
    simp [Expr.names, Expr.ownName, Expr.parts, argumentNames_eq, fieldNames_eq, branchNames_eq,
      fields, branches, List.flatMap_assoc]

/-- The names of an expression are the identifiers among its nodes. -/
theorem Expr.mem_names_iff (tree : Expr) (use : NameUse) :
    use ∈ tree.names ↔ (Expr.name use.span use.name).Occurs tree := by
  constructor
  · intro member
    induction tree using Expr.induct with
    | step whole ih =>
        rw [Expr.names_eq, List.mem_append, List.mem_flatMap] at member
        rcases member with own | ⟨part, inside, member⟩
        · cases whole
          case name =>
              obtain rfl := List.mem_singleton.mp own
              exact .whole
          all_goals cases own
        · exact .part inside (ih part inside member)
  · intro occurs
    induction occurs with
    | whole => simp [Expr.names]
    | part inside _ ih =>
        rw [Expr.names_eq]
        exact List.mem_append_right _ (List.mem_flatMap.mpr ⟨_, inside, ih⟩)

theorem Expr.exists_use_iff (tree : Expr) (name : String) :
    (∃ use ∈ tree.names, use.name = name) ↔ ∃ span, (Expr.name span name).Occurs tree := by
  constructor
  · rintro ⟨use, member, rfl⟩
    exact ⟨use.span, (tree.mem_names_iff use).mp member⟩
  · rintro ⟨span, occurs⟩
    exact ⟨⟨name, span⟩, (tree.mem_names_iff ⟨name, span⟩).mpr occurs, rfl⟩

/-! ## Identifiers in a text -/

/-- The identifiers of a tree where they stand in its text: nodes of the tree, each of them a name
among the tokens that the text is read as, one behind the other. -/
structure Identifies (text : String) (tree : Expr) (found : List (Nat × NameUse)) : Prop where
  tokens :
    ∃ (tokens : List (Nat × Token)) (whole : Operand),
      Covers text.toList 0 tokens ∧
      ((tokens.map Prod.snd).foldlM Progress.step .start).bind Progress.finish? = some whole ∧
      whole.tree = tree ∧
      ∀ place use, (place, use) ∈ found →
        ∃ token, (place, token) ∈ tokens ∧ token.terminal = .name ∧ use = ⟨token.text, token.span⟩
  listed : found.map Prod.snd = tree.names
  nodes : ∀ use, (∃ place, (place, use) ∈ found) ↔ (Expr.name use.span use.name).Occurs tree
  increasing : found.Pairwise fun earlier later => earlier.1 < later.1

/-- The names of a tree are tokens of the text that it is read from, in their order. -/
theorem exists_identifies
    (parsed : parse text field = .ok tree) :
    ∃ found, Identifies text tree found := by
  obtain ⟨whole, read, rfl⟩ := readOperand_of_parse parsed
  obtain ⟨tokens, covers, reading⟩ := covers_of_readOperand read
  obtain ⟨final, steps, finished⟩ := Option.bind_eq_some_iff.mp reading
  have names := names_of_steps steps
  rw [← names_of_finish? finished, ← map_snd_namedPlaces] at names
  obtain ⟨found, among, same⟩ := List.sublist_map_iff.mp names
  refine ⟨found, ⟨tokens, whole, covers, reading, rfl, ?_⟩, same.symm, fun use => ?_, ?_⟩
  · exact fun place use member => mem_namedPlaces (among.subset member)
  · rw [← Expr.mem_names_iff, same, List.mem_map]
    constructor
    · rintro ⟨place, member⟩
      exact ⟨(place, use), member, rfl⟩
    · rintro ⟨⟨place, other⟩, member, rfl⟩
      exact ⟨place, member⟩
  · exact covers.namedPlaces_increasing.sublist among

/-! ## Unknown names -/

theorem mem_unknownNames_iff (known : String → Bool) (uses : List NameUse) (name : String) :
    name ∈ unknownNames known uses ↔
      (∃ use ∈ uses, use.name = name) ∧ known name = false := by
  induction uses with
  | nil => simp [unknownNames]
  | cons use rest ih =>
      rw [unknownNames]
      by_cases same : use.name = name
      · subst same
        cases visible : known use.name <;> simp [ih, visible]
      · have other : name ≠ use.name := Ne.symm same
        cases visible : known use.name <;> simp [ih, same, other]

theorem nodup_unknownNames (known : String → Bool) (uses : List NameUse) :
    (unknownNames known uses).Nodup := by
  induction uses with
  | nil => exact .nil
  | cons use rest ih =>
      rw [unknownNames]
      split
      · exact ih
      · exact List.nodup_cons.mpr ⟨by simp, ih.filter _⟩

/-- A name is first used before another one is used at all. -/
def Precedes (found : List (Nat × NameUse)) (earlier later : String) : Prop :=
  ∃ place use, (place, use) ∈ found ∧ use.name = earlier ∧
    ∀ other ∈ found, other.2.name = later → place < other.1

theorem Precedes.cons
    {held : Nat × NameUse}
    {earlier later : String}
    (precedes : Precedes found earlier later)
    (apart : later ≠ held.2.name) :
    Precedes (held :: found) earlier later := by
  obtain ⟨place, use, member, named, before⟩ := precedes
  refine ⟨place, use, List.mem_cons_of_mem _ member, named, fun other listed same => ?_⟩
  rcases List.mem_cons.mp listed with rfl | listed
  · exact absurd same.symm apart
  · exact before other listed same

theorem unknownNames_ordered
    (known : String → Bool)
    (increasing : found.Pairwise fun earlier later => earlier.1 < later.1) :
    (unknownNames known (found.map Prod.snd)).Pairwise (Precedes found) := by
  induction found with
  | nil => exact .nil
  | cons held rest ih =>
      obtain ⟨first, increasing⟩ := List.pairwise_cons.mp increasing
      rw [List.map_cons, unknownNames]
      split
      · rename_i visible
        refine (ih increasing).imp_of_mem fun {_ later} _ member precedes => precedes.cons ?_
        rintro rfl
        have hidden := ((mem_unknownNames_iff known _ _).mp member).2
        rw [visible] at hidden
        cases hidden
      · refine List.pairwise_cons.mpr ⟨fun later member => ?_, ?_⟩
        · have apart : later ≠ held.2.name := by simpa using (List.mem_filter.mp member).2
          refine ⟨held.1, held.2, List.mem_cons_self, rfl, fun other listed same => ?_⟩
          rcases List.mem_cons.mp listed with rfl | listed
          · exact absurd same.symm apart
          · exact first other listed
        · refine ((ih increasing).filter _).imp_of_mem fun {_ later} _ member precedes =>
            precedes.cons ?_
          simpa using (List.mem_filter.mp member).2

/-- Where more names are known, some of the others are left. -/
theorem unknownNames_sublist
    {known wider : String → Bool}
    (grows : ∀ name, known name = true → wider name = true)
    (uses : List NameUse) :
    (unknownNames wider uses).Sublist (unknownNames known uses) := by
  induction uses with
  | nil => exact .slnil
  | cons use rest ih =>
      rw [unknownNames, unknownNames]
      cases visible : known use.name with
      | true =>
          rw [grows _ visible]
          exact ih
      | false =>
          have filtered := ih.filter fun name => decide (name ≠ use.name)
          cases later : wider use.name with
          | false => exact filtered.cons_cons _
          | true =>
              have absent : use.name ∉ unknownNames wider rest := by
                rw [mem_unknownNames_iff, later]
                simp
              have whole : (unknownNames wider rest).filter (fun name => decide (name ≠ use.name)) =
                  unknownNames wider rest :=
                List.filter_eq_self.mpr fun name member =>
                  decide_eq_true fun same => absent (same ▸ member)
              rw [whole] at filtered
              exact filtered.cons _

/-! ## What a check finds -/

/-- The names that are warned about: each once, the identifiers that are not visible, in the order
in which the text first uses them. -/
structure Unseen
    (tree : Expr)
    (found : List (Nat × NameUse))
    (visible names : List String) :
    Prop where
  distinct : names.Nodup
  exact : ∀ name, name ∈ names ↔
    (∃ span, (Expr.name span name).Occurs tree) ∧ name ∉ visible ∧ name ∉ environmentNames
  ordered : names.Pairwise (Precedes found)

/-- What is checked of a text: a text that is no expression gives one error with the code of its
fault, and an expression one warning for each name that is not visible, or a single error if it is
too deep for the walk. -/
structure ChecksExactly (text field : String) (socketId : Option String) : Prop where
  refused : ∀ fault visible, parse text field = .error fault →
    ∃ error, check text field visible socketId = [error] ∧ error.severity = .error ∧
      error.code = fault.code ∧ error.message = fault.message ∧ error.socketId = socketId
  unchecked : ∀ tree, parse text field = .ok tree → check text field none socketId = []
  tooDeep : ∀ tree visible, parse text field = .ok tree → maxReach < tree.reach →
    check text field (some visible) socketId = [⟨.expression .tooDeep, .error, socketId⟩]
  warned : ∀ tree, parse text field = .ok tree → tree.reach ≤ maxReach →
    ∃ found, Identifies text tree found ∧ ∀ visible, ∃ names,
      Unseen tree found visible names ∧
      check text field (some visible) socketId =
        names.map fun name => ⟨.undefinedIdentifier name, .warning, socketId⟩
  fewer : ∀ visible more, visible ⊆ more →
    (check text field (some more) socketId).Sublist (check text field (some visible) socketId)

theorem isKnown_eq_false_iff (visible : List String) (name : String) :
    isKnown visible name = false ↔ name ∉ visible ∧ name ∉ environmentNames := by
  simp [isKnown]

/-- Warnings about names are exact, whatever is visible. -/
theorem check_exact (text field : String) (socketId : Option String) :
    ChecksExactly text field socketId where
  refused fault visible failed := by
    refine ⟨⟨.expression fault, .error, socketId⟩, ?_, rfl, rfl, rfl, rfl⟩
    simp only [check, failed]
  unchecked tree parsed := by simp only [check, parsed]
  tooDeep tree visible parsed deep := by
    simp only [check, parsed, if_neg (Nat.not_le.mpr deep)]
  warned tree parsed shallow := by
    obtain ⟨found, identifies⟩ := exists_identifies parsed
    refine ⟨found, identifies, fun visible => ⟨unknownNames (isKnown visible) tree.names, ?_, ?_⟩⟩
    · refine ⟨nodup_unknownNames _ _, fun name => ?_, ?_⟩
      · rw [mem_unknownNames_iff, isKnown_eq_false_iff, Expr.exists_use_iff]
      · rw [← identifies.listed]
        exact unknownNames_ordered _ identifies.increasing
    · simp only [check, parsed, if_pos shallow]
  fewer visible more wider := by
    unfold check
    cases parse text field with
    | error fault => exact List.Sublist.refl _
    | ok tree =>
        dsimp only
        split
        · refine (unknownNames_sublist (fun name known => ?_) tree.names).map _
          rw [isKnown, Bool.or_eq_true, List.contains_iff_mem] at known ⊢
          exact known.imp_left fun member => wider member
        · exact List.Sublist.refl _

example :
    (check "a.b + c:d(e, c) .. \x7b f = g, [h] = print \x7d" "value" (some ["e"]) none).map
        Diagnostic.message =
      ["Identifier 'a' is not visible from this node.",
       "Identifier 'c' is not visible from this node.",
       "Identifier 'g' is not visible from this node.",
       "Identifier 'h' is not visible from this node."] := by
  decide +kernel

/-! ## Long sums -/

/-- The rest of a sum behind its first addend. -/
def furtherAddends : Nat → List Char
  | 0 => []
  | count + 1 => '+' :: 'a' :: furtherAddends count

/-- The sum of a name and as often again the same name. -/
def sumText (count : Nat) : String := String.ofList ('a' :: furtherAddends count)

/-- The addend that stands at a column. -/
def addend (column : Nat) : Operand := .leaf (.name ⟨column, column + 1⟩ "a")

/-- What a reader makes of a sum.  However many addends there are, they stand side by side one
level below it in the grammar; in the tree each of them is a step further down. -/
structure IsSum (count : Nat) (operand : Operand) : Prop where
  sound : operand.flaw = none
  /-- With a further addend it spans no more than two levels. -/
  low : (if operand.chain = BinaryOperator.add.level then 0 else 1) + operand.height ≤ 2
  reach : operand.tree.reach = count + 1
  mentions : ∃ span, (Expr.name span "a").Occurs operand.tree

theorem isSum_addend (column : Nat) : IsSum 0 (addend column) where
  sound := rfl
  low := Nat.le_refl 2
  reach := rfl
  mentions := ⟨_, .whole⟩

theorem IsSum.add
    {count : Nat}
    {left : Operand}
    (isSum : IsSum count left)
    (column : Nat) :
    IsSum (count + 1) (.binary .add left (addend column)) where
  sound := by
    apply flawOf_eq_none
    simp [isSum.sound, (isSum_addend column).sound]
  low := by
    have height : (Operand.binary .add left (addend column)).height ≤ 2 := by
      apply heightOf_le (by omega)
      simp only [List.mem_cons, List.not_mem_nil, or_false, forall_eq_or_imp, forall_eq]
      exact ⟨isSum.low, Nat.le_refl 2⟩
    have chain : (Operand.binary .add left (addend column)).chain = BinaryOperator.add.level := rfl
    rw [if_pos chain]
    omega
  reach := by
    show 1 + max left.tree.reach 1 = count + 1 + 1
    rw [isSum.reach]
    omega
  mentions := ⟨_, .part (List.mem_cons_of_mem _ (List.mem_singleton_self _)) .whole⟩

theorem readTokens_addend (left : Operand) (column count : Nat) :
    readTokens ⟨[.binary left .add], .operand⟩ column 0 ('a' :: furtherAddends count) =
      readTokens ⟨[.binary left .add], .complete (addend column)⟩ (column + 1) 0
        (furtherAddends count) := by
  cases count <;> rfl

theorem readTokens_plus (left operand : Operand) (column count : Nat) :
    readTokens ⟨[.binary left .add], .complete operand⟩ column 0 (furtherAddends (count + 1)) =
      readTokens ⟨[.binary (.binary .add left operand) .add], .operand⟩ (column + 1) 0
        ('a' :: furtherAddends count) :=
  rfl

/-- Behind a sum and a plus sign, further addends are read into one longer sum. -/
theorem readTokens_sum
    {before : Nat}
    {left : Operand}
    (isSum : IsSum before left)
    (column count : Nat) :
    ∃ final whole,
      readTokens ⟨[.binary left .add], .operand⟩ column 0 ('a' :: furtherAddends count) =
        .ok final ∧
      final.finish? = some whole ∧ IsSum (before + 1 + count) whole := by
  induction count generalizing before left column with
  | zero => exact ⟨_, _, readTokens_addend left column 0, rfl, isSum.add column⟩
  | succ count ih =>
      obtain ⟨final, whole, reads, finished, longer⟩ := ih (isSum.add column) (column + 2)
      refine ⟨final, whole, ?_, finished, ?_⟩
      · rw [readTokens_addend, readTokens_plus, reads]
      · rwa [Nat.add_right_comm (before + 1) 1 count] at longer

theorem readOperand_sum (count : Nat) :
    ∃ whole, readOperand ('a' :: furtherAddends count) = .ok whole ∧ IsSum count whole := by
  cases count with
  | zero => exact ⟨addend 1, rfl, isSum_addend 1⟩
  | succ count =>
      obtain ⟨final, whole, reads, finished, isSum⟩ := readTokens_sum (isSum_addend 1) 3 count
      have begins : readTokens .start 1 0 ('a' :: furtherAddends (count + 1)) = .ok final := reads
      refine ⟨whole, ?_, ?_⟩
      · simp only [readOperand, begins, finished]
      · rwa [Nat.add_comm] at isSum

theorem textBalanceFault?_sum (count : Nat) :
    textBalanceFault? ('a' :: furtherAddends count) = none := by
  have plain : ∀ c ∈ 'a' :: furtherAddends count, c ∉ specials := by
    induction count with
    | zero => decide
    | succ count ih =>
        exact List.forall_mem_cons.mpr ⟨by decide, List.forall_mem_cons.mpr ⟨by decide, ih⟩⟩
  obtain ⟨further, scan⟩ := passes_of_plain plain 1 [] []
  rw [List.append_nil] at scan
  rw [textBalanceFault?, scan]
  rfl

/-- Every sum is an expression, however long. -/
theorem parse_sumText (count : Nat) (field : String) :
    ∃ whole, parse (sumText count) field = .ok whole.tree ∧ IsSum count whole := by
  obtain ⟨whole, reads, isSum⟩ := readOperand_sum count
  have shallow : whole.height ≤ maxDepth := by
    have low := isSum.low
    rw [maxDepth]
    omega
  have characters : (sumText count).toList = 'a' :: furtherAddends count := String.toList_ofList
  have visible : Text.isBlankText (sumText count) = false := by
    rw [Text.isBlankText, characters]
    rfl
  refine ⟨whole, ?_, isSum⟩
  simp [parse, visible, characters, textBalanceFault?_sum, reads, Operand.tree?, isSum.sound,
    shallow]

/-- A sum that is long enough is not warned about, whatever is visible. -/
theorem check_sumText
    {count : Nat}
    (long : maxReach ≤ count)
    (field : String)
    (visible : List String)
    (socketId : Option String) :
    check (sumText count) field (some visible) socketId =
      [⟨.expression .tooDeep, .error, socketId⟩] := by
  obtain ⟨whole, parsed, isSum⟩ := parse_sumText count field
  have deep : ¬whole.tree.reach ≤ maxReach := by
    rw [isSum.reach]
    omega
  simp only [check, parsed, if_neg deep]

/-- In a sum of 1050 times the same name, the name is not visible and no warning says so. -/
theorem longSum_unwarned :
    ∃ tree, parse (sumText 1049) "expression" = .ok tree ∧
      (∃ span, (Expr.name span "a").Occurs tree) ∧ "a" ∉ environmentNames ∧
      check (sumText 1049) "expression" (some []) none =
        [⟨.expression .tooDeep, .error, none⟩] ∧
      ∀ names : List String, check (sumText 1049) "expression" (some []) none ≠
        names.map fun name => ⟨.undefinedIdentifier name, .warning, none⟩ := by
  obtain ⟨whole, parsed, isSum⟩ := parse_sumText 1049 "expression"
  have answer := @check_sumText 1049 (by decide) "expression" [] none
  refine ⟨whole.tree, parsed, isSum.mentions, by decide, answer, fun names warned => ?_⟩
  rw [answer] at warned
  cases names <;> cases warned

end LuauNodes.Expression
