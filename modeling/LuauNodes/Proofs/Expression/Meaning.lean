import LuauNodes.Proofs.Expression.Pieces
import Mathlib.Data.List.Induction

/-!
# What operands mean

An operand means a tree when its own tree is the same up to columns, every
number in it has a value, and it spans no more levels of the grammar than it has
tokens.  Operands that are made of parts mean what their parts mean.
-/

namespace LuauNodes.Expression

open LuauNodes.Text

/-- An operand is what a tree of so many tokens is read as. -/
structure Means (size : Nat) (tree : Expr) (operand : Operand) : Prop where
  plain : operand.tree.plain = tree.plain
  sound : operand.flaw = none
  height : operand.height ≤ size

/-- An entry is what a table field is read as. -/
inductive MeansField (size : Nat) : TableField → Entry → Prop where
  | keyed
      {key value : Expr}
      {keyOperand operand : Operand}
      (keyMeans : Means size key keyOperand)
      (means : Means size value operand) :
      MeansField size (.keyed key value) ⟨.keyed keyOperand, operand⟩
  | named
      {name : String}
      {value : Expr}
      {operand : Operand}
      (means : Means size value operand) :
      MeansField size (.named name value) ⟨.named name, operand⟩
  | positional
      {value : Expr}
      {operand : Operand}
      (means : Means size value operand) :
      MeansField size (.positional value) ⟨.positional, operand⟩

/-- Two operands are what a branch is read as. -/
inductive MeansBranch (size : Nat) : Branch → Operand × Operand → Prop where
  | mk
      {condition value : Expr}
      {conditionOperand operand : Operand}
      (conditionMeans : Means size condition conditionOperand)
      (means : Means size value operand) :
      MeansBranch size (.mk condition value) (conditionOperand, operand)

variable {size larger : Nat}

theorem Means.mono
    {tree : Expr}
    {operand : Operand}
    (means : Means size tree operand)
    (within : size ≤ larger) :
    Means larger tree operand :=
  ⟨means.plain, means.sound, means.height.trans within⟩

theorem MeansField.mono
    {field : TableField}
    {entry : Entry}
    (means : MeansField size field entry)
    (within : size ≤ larger) :
    MeansField larger field entry := by
  cases means with
  | keyed keyMeans means => exact .keyed (keyMeans.mono within) (means.mono within)
  | named means => exact .named (means.mono within)
  | positional means => exact .positional (means.mono within)

theorem MeansBranch.mono
    {branch : Branch}
    {operands : Operand × Operand}
    (means : MeansBranch size branch operands)
    (within : size ≤ larger) :
    MeansBranch larger branch operands := by
  cases means with
  | mk conditionMeans means => exact .mk (conditionMeans.mono within) (means.mono within)

/-! ## Operands made of parts -/

theorem flawOf_eq_none
    {parts : List (Nat × Operand)}
    (sound : ∀ part ∈ parts, part.2.flaw = none)
    (visited : Nat) :
    Operand.flawOf visited parts = none := by
  induction parts generalizing visited with
  | nil => rfl
  | cons part others ih =>
      rw [Operand.flawOf, sound part List.mem_cons_self]
      exact ih (fun other member => sound other (List.mem_cons_of_mem part member)) _

theorem heightOf_le
    {parts : List (Nat × Operand)}
    (positive : 1 ≤ size)
    (within : ∀ part ∈ parts, part.1 + part.2.height ≤ size) :
    Operand.heightOf parts ≤ size := by
  have accumulate : ∀ height, height ≤ size →
      parts.foldl (fun height part => max height (part.1 + part.2.height)) height ≤ size := by
    induction parts with
    | nil => exact fun height bound => bound
    | cons part others ih =>
        intro height bound
        apply ih fun other member => within other (List.mem_cons_of_mem part member)
        exact max_le bound (within part List.mem_cons_self)
  exact accumulate 1 positive

theorem means_build
    {tree built : Expr}
    {parts : List (Nat × Operand)}
    (plain : built.plain = tree.plain)
    (positive : 1 ≤ size)
    (sound : ∀ part ∈ parts, part.2.flaw = none)
    (within : ∀ part ∈ parts, part.1 + part.2.height ≤ size) :
    Means size tree (.build built parts) :=
  ⟨plain, flawOf_eq_none sound 1, heightOf_le positive within⟩

theorem means_leaf
    {tree built : Expr}
    (plain : built.plain = tree.plain) :
    Means 1 tree (.leaf built) :=
  means_build plain (Nat.le_refl 1) (by simp) (by simp)

theorem Means.parenthesised
    {tree : Expr}
    {operand : Operand}
    (means : Means size tree operand) :
    Means (size + 1) tree operand.parenthesised := by
  apply means_build means.plain (Nat.le_add_left 1 size)
  · simpa using means.sound
  · have height := means.height
    simp
    omega

theorem Means.unary
    {span : Span}
    {operator : UnaryOperator}
    {tree : Expr}
    {operand : Operand}
    (means : Means size tree operand)
    (column : Nat) :
    Means (size + 1) (.unary span operator tree) (.unary operator column operand) := by
  apply means_build _ (Nat.le_add_left 1 size)
  · simpa using means.sound
  · have height := means.height
    simp
    omega
  · rw [Expr.plain, Expr.plain, means.plain]

theorem Means.binary
    {span : Span}
    {operator : BinaryOperator}
    {leftTree rightTree : Expr}
    {left right : Operand}
    {leftSize rightSize : Nat}
    (leftMeans : Means leftSize leftTree left)
    (rightMeans : Means rightSize rightTree right) :
    Means (leftSize + (rightSize + 1)) (.binary span operator leftTree rightTree)
      (.binary operator left right) := by
  have leftHeight := leftMeans.height
  have rightHeight := rightMeans.height
  refine ⟨?_, ?_, ?_⟩
  · show Expr.plain (.binary _ operator left.tree right.tree) = _
    rw [Expr.plain, Expr.plain, leftMeans.plain, rightMeans.plain]
  · apply flawOf_eq_none
    simp [leftMeans.sound, rightMeans.sound]
  · apply heightOf_le (by omega)
    simp only [List.mem_cons, List.not_mem_nil, or_false, forall_eq_or_imp, forall_eq]
    split <;> omega

theorem Means.field
    {span : Span}
    {target : Expr}
    {operand : Operand}
    (means : Means size target operand)
    (name : String)
    (stop : Nat) :
    Means (size + 2) (.field span target name) (.field operand name stop) := by
  apply means_build _ (Nat.le_add_left 1 (size + 1))
  · simpa using means.sound
  · have height := means.height
    simp
    omega
  · rw [Expr.plain, Expr.plain, means.plain]

theorem Means.index
    {span : Span}
    {target key : Expr}
    {operand keyOperand : Operand}
    {keySize : Nat}
    (means : Means size target operand)
    (keyMeans : Means keySize key keyOperand)
    (stop : Nat) :
    Means (size + (keySize + 2)) (.index span target key) (.index operand keyOperand stop) := by
  have height := means.height
  have keyHeight := keyMeans.height
  apply means_build _ (by omega)
  · simp [means.sound, keyMeans.sound]
  · simp only [List.mem_cons, List.not_mem_nil, or_false, forall_eq_or_imp, forall_eq]
    omega
  · rw [Expr.plain, Expr.plain, means.plain, keyMeans.plain]

/-! ## Lists of operands -/

theorem plainArguments_map_tree
    {trees : List Expr}
    {operands : List Operand}
    (means : List.Forall₂ (Means size) trees operands) :
    plainArguments (operands.map Operand.tree) = plainArguments trees := by
  induction means with
  | nil => rfl
  | cons means _ ih => rw [List.map_cons, plainArguments, plainArguments, means.plain, ih]

theorem plainFields_map_tree
    {fields : List TableField}
    {entries : List Entry}
    (means : List.Forall₂ (MeansField size) fields entries) :
    plainFields (entries.map Entry.tree) = plainFields fields := by
  induction means with
  | nil => rfl
  | cons means _ ih =>
      rw [List.map_cons]
      cases means with
      | keyed keyMeans means =>
          rw [Entry.tree, plainFields, plainFields, keyMeans.plain, means.plain, ih]
      | named means => rw [Entry.tree, plainFields, plainFields, means.plain, ih]
      | positional means => rw [Entry.tree, plainFields, plainFields, means.plain, ih]

theorem plainBranches_map_tree
    {branches : List Branch}
    {operands : List (Operand × Operand)}
    (means : List.Forall₂ (MeansBranch size) branches operands) :
    plainBranches (operands.map fun branch => .mk branch.1.tree branch.2.tree) =
      plainBranches branches := by
  induction means with
  | nil => rfl
  | cons means _ ih =>
      rw [List.map_cons]
      cases means with
      | mk conditionMeans means =>
          rw [plainBranches, plainBranches, conditionMeans.plain, means.plain, ih]

theorem sound_of_forall₂
    {trees : List Expr}
    {operands : List Operand}
    (means : List.Forall₂ (Means size) trees operands) :
    ∀ operand ∈ operands, operand.flaw = none ∧ operand.height ≤ size := by
  induction means with
  | nil => simp
  | cons means _ ih =>
      intro operand member
      rcases List.mem_cons.mp member with here | further
      · exact here ▸ ⟨means.sound, means.height⟩
      · exact ih operand further

/-- The parts of a call have values and stay within the tokens of the call. -/
theorem callParts_within
    {target : Expr}
    {operand : Operand}
    {trees : List Expr}
    {operands : List Operand}
    {argumentSize : Nat}
    (means : Means size target operand)
    (argumentsMean : List.Forall₂ (Means argumentSize) trees operands) :
    ∀ part ∈ Operand.callParts operand operands,
      part.2.flaw = none ∧ part.1 + part.2.height ≤ size + (argumentSize + 2) := by
  intro part member
  rcases List.mem_cons.mp member with rfl | further
  · have height := means.height
    exact ⟨means.sound, by dsimp only; omega⟩
  · rcases List.mem_map.mp further with ⟨argument, inArguments, rfl⟩
    rcases sound_of_forall₂ argumentsMean argument inArguments with ⟨sound, height⟩
    exact ⟨sound, by dsimp only; omega⟩

theorem Means.call
    {span : Span}
    {target : Expr}
    {operand : Operand}
    {trees : List Expr}
    {operands : List Operand}
    {argumentSize : Nat}
    (means : Means size target operand)
    (argumentsMean : List.Forall₂ (Means argumentSize) trees operands)
    (stop : Nat) :
    Means (size + (argumentSize + 2)) (.call span target trees) (.call operand operands stop) := by
  have within := callParts_within means argumentsMean
  apply means_build _ (by omega) (fun part member => (within part member).1)
    (fun part member => (within part member).2)
  rw [Expr.plain, Expr.plain, means.plain, plainArguments_map_tree argumentsMean]

theorem Means.method
    {span : Span}
    {target : Expr}
    {operand : Operand}
    {trees : List Expr}
    {operands : List Operand}
    {argumentSize : Nat}
    (means : Means size target operand)
    (argumentsMean : List.Forall₂ (Means argumentSize) trees operands)
    (name : String)
    (stop : Nat) :
    Means (size + (argumentSize + 2)) (.method span target name trees)
      (.method operand name operands stop) := by
  have within := callParts_within means argumentsMean
  apply means_build _ (by omega) (fun part member => (within part member).1)
    (fun part member => (within part member).2)
  rw [Expr.plain, Expr.plain, means.plain, plainArguments_map_tree argumentsMean]

theorem MeansField.within
    {field : TableField}
    {entry : Entry}
    (means : MeansField size field entry) :
    ∀ part ∈ entry.parts, part.2.flaw = none ∧ part.1 + part.2.height ≤ size + 2 := by
  cases means with
  | keyed keyMeans means =>
      have keyHeight := keyMeans.height
      have height := means.height
      simp only [Entry.parts, List.mem_cons, List.not_mem_nil, or_false, forall_eq_or_imp,
        forall_eq]
      exact ⟨⟨keyMeans.sound, by omega⟩, means.sound, by omega⟩
  | named means =>
      have height := means.height
      simp only [Entry.parts, List.mem_singleton, forall_eq]
      exact ⟨means.sound, by omega⟩
  | positional means =>
      have height := means.height
      simp only [Entry.parts, List.mem_singleton, forall_eq]
      exact ⟨means.sound, by omega⟩

theorem means_table
    {span : Span}
    {fields : List TableField}
    {entries : List Entry}
    (means : List.Forall₂ (MeansField size) fields entries)
    (columns : Span) :
    Means (size + 2) (.table span fields) (.table columns entries) := by
  have within : ∀ part ∈ entries.flatMap Entry.parts,
      part.2.flaw = none ∧ part.1 + part.2.height ≤ size + 2 := by
    clear span
    induction means with
    | nil => simp
    | cons means _ ih =>
        intro part member
        rw [List.flatMap_cons, List.mem_append] at member
        rcases member with here | further
        · exact means.within part here
        · exact ih part further
  apply means_build _ (by omega) (fun part member => (within part member).1)
    (fun part member => (within part member).2)
  rw [Expr.plain, Expr.plain, plainFields_map_tree means]

theorem means_choice
    {span : Span}
    {branches : List Branch}
    {operands : List (Operand × Operand)}
    {tree : Expr}
    {otherwise : Operand}
    (means : List.Forall₂ (MeansBranch size) branches operands)
    (otherwiseMeans : Means size tree otherwise)
    (column : Nat) :
    Means (size + 1) (.choice span branches tree) (.choice column operands otherwise) := by
  have within : ∀ part ∈ operands.flatMap fun branch => [(1, branch.1), (1, branch.2)],
      part.2.flaw = none ∧ part.1 + part.2.height ≤ size + 1 := by
    clear otherwiseMeans span
    induction means with
    | nil => simp
    | cons means _ ih =>
        intro part member
        rw [List.flatMap_cons, List.mem_append] at member
        rcases member with here | further
        · cases means with
          | mk conditionMeans means =>
              have conditionHeight := conditionMeans.height
              have height := means.height
              simp only [List.mem_cons, List.not_mem_nil, or_false] at here
              rcases here with rfl | rfl
              · exact ⟨conditionMeans.sound, by dsimp only; omega⟩
              · exact ⟨means.sound, by dsimp only; omega⟩
        · exact ih part further
  have all : ∀ part ∈ (operands.flatMap fun branch => [(1, branch.1), (1, branch.2)]) ++
      [(1, otherwise)], part.2.flaw = none ∧ part.1 + part.2.height ≤ size + 1 := by
    intro part member
    rcases List.mem_append.mp member with before | last
    · exact within part before
    · have height := otherwiseMeans.height
      rw [List.mem_singleton.mp last]
      exact ⟨otherwiseMeans.sound, by dsimp only; omega⟩
  apply means_build _ (by omega) (fun part member => (all part member).1)
    (fun part member => (all part member).2)
  rw [Expr.plain, Expr.plain, plainBranches_map_tree means, otherwiseMeans.plain]

/-! ## Literals -/

theorem filter_eq_bareDigits (written : List Char) :
    written.filter (· != '_') = bareDigits written := by
  apply List.filter_congr
  intro c _
  rw [bne, decide_not, ← beq_eq_decide]

theorem IsDigits.weight_lt
    {base : Nat}
    {written : List Char}
    (digits : IsDigits base written)
    {c : Char}
    (member : c ∈ bareDigits written) :
    digitWeight c < base := by
  rw [bareDigits, List.mem_filter, decide_eq_true_eq] at member
  exact (digits.members c member.1).resolve_left member.2

/-- Reading digits from the front is the same as weighing them from the back. -/
theorem foldl_eq_ofDigits
    (base : Nat)
    (weight : Char → Nat)
    (digits : List Char) :
    digits.foldl (fun value c => value * base + weight c) 0 =
      Nat.ofDigits base (digits.reverse.map weight) := by
  induction digits using List.reverseRecOn with
  | nil => rfl
  | append_singleton digits c ih =>
      rw [List.foldl_append, List.foldl_cons, List.foldl_nil, ih, List.reverse_append,
        List.reverse_singleton, List.singleton_append, List.map_cons, Nat.ofDigits_cons]
      simp [Nat.mul_comm, Nat.add_comm]

theorem foldl_eq_digitsDenote
    {base : Nat}
    {written : List Char}
    {value? : Char → Option Nat}
    (valued : ∀ c, digitWeight c < base → value? c = some (digitWeight c))
    (digits : IsDigits base written) :
    (bareDigits written).foldl (fun value c => value * base + (value? c).getD 0) 0 =
      digitsDenote base written := by
  have weights : (bareDigits written).reverse.map (fun c => (value? c).getD 0) =
      (bareDigits written).reverse.map digitWeight := by
    apply List.map_congr_left
    intro c member
    rw [valued c (digits.weight_lt (List.mem_reverse.mp member)), Option.getD_some]
  rw [foldl_eq_ofDigits base (fun c => (value? c).getD 0), weights, digitsDenote]

theorem digitsValue_eq_digitsDenote
    {written : List Char}
    (digits : IsDigits 10 written) :
    digitsValue (bareDigits written) = digitsDenote 10 written :=
  foldl_eq_digitsDenote (fun _ => digitValue?_of_digitWeight) digits

theorem baseValue_eq_digitsDenote
    {base : Nat}
    (small : base ≤ 16)
    {written : List Char}
    (digits : IsDigits base written) :
    baseValue base (bareDigits written) = digitsDenote base written :=
  foldl_eq_digitsDenote (fun _ digit => hexValue?_of_digitWeight (by omega)) digits

theorem baseNumeral_of_isDigits
    {base : Nat}
    (small : base ≤ 16)
    {written : List Char}
    (digits : IsDigits base written) :
    Operand.baseNumeral base (bareDigits written) = .ok (.whole (digitsDenote base written)) := by
  rw [Operand.baseNumeral, if_neg (by simpa using digits.nonempty),
    baseValue_eq_digitsDenote small digits]

theorem decimalNumeral_of_isDigits
    {written : List Char}
    (digits : IsDigits 10 written)
    (limited : (bareDigits written).length ≤ Number.maxDigits) :
    Operand.decimalNumeral (bareDigits written) = .ok (.whole (digitsDenote 10 written)) := by
  have decimal : ∀ c ∈ bareDigits written, isDigit c = true :=
    fun c member => isDigit_of_digitWeight (digits.weight_lt member)
  rw [Operand.decimalNumeral, List.takeWhile_eq_self_iff.mpr decimal,
    List.dropWhile_eq_nil_iff.mpr decimal]
  dsimp only
  rw [if_neg (Nat.not_lt.mpr limited), digitsValue_eq_digitsDenote digits]

/-- A written number is read as the number that it denotes. -/
theorem numeral_of_numbering
    {value : Nat}
    {written : List Char}
    (numbering : Numbering value written) :
    Operand.numeral written = .ok (.whole value) := by
  cases numbering with
  | decimal digits start limited =>
      have read := decimalNumeral_of_isDigits digits limited
      have weights := fun c => digits.weight_lt (c := c)
      rw [Operand.numeral, filter_eq_bareDigits]
      generalize bareDigits written = bare at read weights ⊢
      split
      · rename_i mark others
        -- No base mark is a decimal digit.
        have decimal := mem_decimals_of_digitWeight (weights mark (by simp))
        have all : ∀ c ∈ "0123456789".toList,
            (c == 'x' || c == 'X') = false ∧ (c == 'b' || c == 'B') = false := by decide
        rcases all mark decimal with ⟨notHexadecimal, notBinary⟩
        simpa [notHexadecimal, notBinary] using read
      · exact read
  | @hexadecimal mark written marked digits =>
      have bare : ('0' :: mark :: written).filter (· != '_') =
          '0' :: mark :: bareDigits written := by
        rw [← filter_eq_bareDigits]
        rcases marked with rfl | rfl <;> rfl
      have read := baseNumeral_of_isDigits (Nat.le_refl 16) digits
      rw [Operand.numeral, bare]
      rcases marked with rfl | rfl <;> exact read
  | @binary mark written marked digits =>
      have bare : ('0' :: mark :: written).filter (· != '_') =
          '0' :: mark :: bareDigits written := by
        rw [← filter_eq_bareDigits]
        rcases marked with rfl | rfl <;> rfl
      have read := baseNumeral_of_isDigits (by decide) digits
      rw [Operand.numeral, bare]
      rcases marked with rfl | rfl <;> exact read

theorem means_number
    {value : Nat}
    {written : List Char}
    (numbering : Numbering value written)
    (span columns : Span) :
    Means 1 (.number span (.whole value)) (.number columns written) := by
  rw [Operand.number, numeral_of_numbering numbering]
  exact means_leaf rfl

theorem means_string
    (quote : Char)
    (body : List Char)
    (span columns : Span) :
    Means 1 (.string span (String.ofList body)) (.string columns (quote :: (body ++ [quote]))) := by
  rw [Operand.string, List.drop_one, List.tail_cons, List.dropLast_concat]
  exact means_leaf rfl

end LuauNodes.Expression
