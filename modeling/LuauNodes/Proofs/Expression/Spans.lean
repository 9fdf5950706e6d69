import LuauNodes.Proofs.Expression.UndefinedNames

/-!
# The columns of expressions

In a text of one line the columns of every node are those of what is written
there.  A token stands where its columns say, and the trees of the open
constructs stand one behind the other before the next token.  Completing an
operator or a construct puts a node around trees that stand in order, and that
is all a step does; so nodes lie inside each other or apart.
-/

namespace LuauNodes.Expression

variable {text : List Char} {whole part : Expr} {trees : List Expr} {frames : List Frame}
  {operand : Operand} {token : Token} {progress further : Progress} {low high : Nat}

/-! ## Where a tree stands -/

/-- The characters of a text that columns cover. -/
def Span.slice (span : Span) (text : List Char) : List Char :=
  (text.drop (span.first - 1)).take (span.stop - span.first)

/-- The text shows a name where it is read, and a string literal between two quotes. -/
def Expr.ShownIn (text : List Char) : Expr → Prop
  | .name span written => span.slice text = written.toList
  | .string span body =>
    ∃ quote, isQuote quote = true ∧ span.slice text = quote :: (body.toList ++ [quote])
  | _ => True

/-- A node covers columns of a text, and its parts stand in them one behind the other. -/
structure Expr.Located (text : List Char) (node : Expr) : Prop where
  begins : 1 ≤ node.span.first
  solid : node.span.first < node.span.stop
  ends : node.span.stop ≤ text.length + 1
  inside : ∀ part ∈ node.parts, node.span.first ≤ part.span.first ∧ part.span.stop ≤ node.span.stop
  apart : node.parts.Pairwise fun earlier later => earlier.span.stop ≤ later.span.first
  shown : node.ShownIn text

/-- Every node of a tree covers the columns that it is written in. -/
def Expr.Faithful (text : List Char) (tree : Expr) : Prop :=
  ∀ node : Expr, node.Occurs tree → node.Located text

theorem Expr.faithful_iff (whole : Expr) :
    whole.Faithful text ↔ whole.Located text ∧ ∀ part ∈ whole.parts, part.Faithful text := by
  constructor
  · intro faithful
    exact ⟨faithful whole .whole, fun part member node occurs =>
      faithful node (.part member occurs)⟩
  · rintro ⟨located, parts⟩ node occurs
    cases occurs with
    | whole => exact located
    | part member occurs => exact parts _ member node occurs

theorem Expr.Faithful.located (faithful : whole.Faithful text) : whole.Located text :=
  faithful whole .whole

/-! ## Trees in order -/

/-- Trees stand between two columns, one behind the other. -/
def InOrder (text : List Char) : Nat → List Expr → Nat → Prop
  | low, [], high => low ≤ high
  | low, tree :: trees, high =>
    low ≤ tree.span.first ∧ tree.Faithful text ∧ InOrder text tree.span.stop trees high

theorem InOrder.le (inOrder : InOrder text low trees high) : low ≤ high := by
  induction trees generalizing low with
  | nil => exact inOrder
  | cons tree trees ih =>
      obtain ⟨before, faithful, others⟩ := inOrder
      have := faithful.located.solid
      have := ih others
      omega

theorem InOrder.widen
    {wider : Nat}
    (inOrder : InOrder text low trees high)
    (within : high ≤ wider) :
    InOrder text low trees wider := by
  induction trees generalizing low with
  | nil => exact Nat.le_trans inOrder within
  | cons tree trees ih => exact ⟨inOrder.1, inOrder.2.1, ih inOrder.2.2⟩

theorem inOrder_append
    (first second : List Expr) :
    InOrder text low (first ++ second) high ↔
      ∃ between, InOrder text low first between ∧ InOrder text between second high := by
  induction first generalizing low with
  | nil =>
      constructor
      · exact fun inOrder => ⟨low, Nat.le_refl low, inOrder⟩
      · rintro ⟨between, before, inOrder⟩
        cases second with
        | nil => exact Nat.le_trans before inOrder
        | cons tree trees => exact ⟨Nat.le_trans before inOrder.1, inOrder.2⟩
  | cons tree first ih =>
      rw [List.cons_append, InOrder, ih]
      constructor
      · rintro ⟨before, faithful, between, inOrder, others⟩
        exact ⟨between, ⟨before, faithful, inOrder⟩, others⟩
      · rintro ⟨between, ⟨before, faithful, inOrder⟩, others⟩
        exact ⟨before, faithful, between, inOrder, others⟩

theorem InOrder.inside
    (inOrder : InOrder text low trees high)
    (member : part ∈ trees) :
    low ≤ part.span.first ∧ part.span.stop ≤ high := by
  induction trees generalizing low with
  | nil => cases member
  | cons tree trees ih =>
      obtain ⟨before, faithful, others⟩ := inOrder
      rcases List.mem_cons.mp member with rfl | member
      · exact ⟨before, others.le⟩
      · have := faithful.located.solid
        have := ih others member
        omega

theorem InOrder.apart (inOrder : InOrder text low trees high) :
    trees.Pairwise fun earlier later => earlier.span.stop ≤ later.span.first := by
  induction trees generalizing low with
  | nil => exact .nil
  | cons tree trees ih =>
      exact List.pairwise_cons.mpr ⟨fun later member => (inOrder.2.2.inside member).1,
        ih inOrder.2.2⟩

theorem InOrder.faithful
    (inOrder : InOrder text low trees high)
    (member : part ∈ trees) :
    part.Faithful text := by
  induction trees generalizing low with
  | nil => cases member
  | cons tree trees ih =>
      rcases List.mem_cons.mp member with rfl | member
      · exact inOrder.2.1
      · exact ih inOrder.2.2 member

/-- A node around trees that stand in order stands where it is written, and so do they. -/
theorem InOrder.node
    (inOrder : InOrder text low whole.parts high)
    (begins : 1 ≤ whole.span.first)
    (solid : whole.span.first < whole.span.stop)
    (ends : whole.span.stop ≤ text.length + 1)
    (before : whole.span.first ≤ low)
    (behind : high ≤ whole.span.stop)
    (shown : whole.ShownIn text) :
    whole.Faithful text := by
  refine whole.faithful_iff.mpr ⟨?_, fun part => inOrder.faithful⟩
  refine ⟨begins, solid, ends, fun part member => ?_, inOrder.apart, shown⟩
  have := inOrder.inside member
  omega

/-! ## Open constructs -/

/-- The expression that the key of a table field is. -/
def EntryKey.parts : EntryKey → List Expr
  | .keyed key => [key.tree]
  | _ => []

/-- The expression that is called, or whose method is. -/
def Callee.tree : Callee → Expr
  | .value callee => callee.tree
  | .method target _ => target.tree

/-- The conditions and values of complete branches. -/
def doneParts (done : List (Operand × Operand)) : List Expr :=
  done.reverse.flatMap fun branch => [branch.1.tree, branch.2.tree]

/-- The column of the token that opens a construct, where the node will cover that token. -/
def Frame.opening? : Frame → Option Nat
  | .unary _ column => some column
  | .table column _ => some column
  | .condition column _ => some column
  | .consequence column _ _ => some column
  | .otherwise column _ => some column
  | _ => none

/-- The complete parts of an open construct. -/
def Frame.parts : Frame → List Expr
  | .unary _ _ => []
  | .binary left _ => [left.tree]
  | .group => []
  | .index target => [target.tree]
  | .arguments callee done => callee.tree :: done.reverse.map Operand.tree
  | .table _ done => done.reverse.flatMap fun entry => entry.tree.parts
  | .key => []
  | .entry entryKey => entryKey.parts
  | .condition _ done => doneParts done
  | .consequence _ done decided => doneParts done ++ [decided.tree]
  | .otherwise _ done => doneParts done

/-- The column at which the node of a construct begins, where that is known already. -/
def Frame.first? (frame : Frame) : Option Nat :=
  frame.opening?.or (frame.parts.head?.map fun first => first.span.first)

/-- The operand that is read last. -/
def Phase.parts : Phase → List Expr
  | .operand => []
  | .firstArgument => []
  | .field => []
  | .complete operand => [operand.tree]
  | .fieldName operand _ => [operand.tree]
  | .member target => [target.tree]
  | .methodName target => [target.tree]
  | .methodCall target _ => [target.tree]
  | .keyValue key => [key.tree]

/-- The open constructs stand before a column, each behind the one around it. -/
inductive Stacked (text : List Char) : List Frame → Nat → Prop where
  | nil {high : Nat} (begins : 1 ≤ high) : Stacked text [] high
  | plain
      {frame : Frame}
      {outer : List Frame}
      {low high : Nat}
      (unopened : frame.opening? = none)
      (stacked : Stacked text outer low)
      (parts : InOrder text low frame.parts high) :
      Stacked text (frame :: outer) high
  | opened
      {frame : Frame}
      {outer : List Frame}
      {column high : Nat}
      (opening : frame.opening? = some column)
      (stacked : Stacked text outer column)
      (parts : InOrder text (column + 1) frame.parts high) :
      Stacked text (frame :: outer) high

theorem Stacked.begins (stacked : Stacked text frames high) : 1 ≤ high := by
  induction stacked with
  | nil begins => exact begins
  | plain _ _ parts ih => exact Nat.le_trans ih parts.le
  | opened _ _ parts ih =>
      have := parts.le
      omega

theorem Stacked.widen
    {wider : Nat}
    (stacked : Stacked text frames high)
    (within : high ≤ wider) :
    Stacked text frames wider := by
  cases stacked with
  | nil begins => exact .nil (Nat.le_trans begins within)
  | plain unopened stacked parts => exact .plain unopened stacked (parts.widen within)
  | opened opening stacked parts => exact .opened opening stacked (parts.widen within)

/-- Trees stand behind the open constructs and before a column. -/
def Laid (text : List Char) (frames : List Frame) (trees : List Expr) (high : Nat) : Prop :=
  ∃ low, Stacked text frames low ∧ InOrder text low trees high

theorem Laid.widen
    {wider : Nat}
    (laid : Laid text frames trees high)
    (within : high ≤ wider) :
    Laid text frames trees wider := by
  obtain ⟨low, stacked, inOrder⟩ := laid
  exact ⟨low, stacked, inOrder.widen within⟩

/-- Trees of which none is kept make room. -/
theorem Laid.stacked (laid : Laid text frames trees high) : Stacked text frames high := by
  obtain ⟨low, stacked, inOrder⟩ := laid
  exact stacked.widen inOrder.le

/-- What is read so far stands before a column. -/
def Progress.Stands (text : List Char) (progress : Progress) (high : Nat) : Prop :=
  Laid text progress.frames progress.phase.parts high

@[simp]
theorem doneParts_cons (condition value : Operand) (done : List (Operand × Operand)) :
    doneParts ((condition, value) :: done) =
      doneParts done ++ [condition.tree, value.tree] := by
  simp [doneParts]

/-! ## Nodes that are completed -/

theorem parts_entry (key : EntryKey) (value : Operand) :
    (Entry.mk key value).tree.parts = key.parts ++ [value.tree] := by
  cases key <;> rfl

theorem parts_call (callee : Callee) (arguments : List Operand) (stop : Nat) :
    (callee.call arguments stop).tree.parts = callee.tree :: arguments.map Operand.tree := by
  cases callee <;> rfl

theorem span_call (callee : Callee) (arguments : List Operand) (stop : Nat) :
    (callee.call arguments stop).tree.span = ⟨callee.tree.span.first, stop⟩ := by
  cases callee <;> rfl

theorem shownIn_call (callee : Callee) (arguments : List Operand) (stop : Nat) :
    (callee.call arguments stop).tree.ShownIn text := by
  cases callee <;> trivial

theorem parts_table (span : Span) (entries : List Entry) :
    (Operand.table span entries).tree.parts = entries.flatMap fun entry => entry.tree.parts := by
  simp [Operand.table, Operand.build, Expr.parts, List.flatMap_map]

theorem parts_choice (column : Nat) (done : List (Operand × Operand)) (otherwise : Operand) :
    (Operand.choice column done.reverse otherwise).tree.parts =
      doneParts done ++ [otherwise.tree] := by
  rw [Operand.choice, Operand.build, Expr.parts, List.flatMap_map]
  rfl

/-- A construct and what is read behind its complete parts make a node. -/
theorem Stacked.complete
    {frame : Frame}
    {between : Nat}
    (stacked : Stacked text (frame :: frames) between)
    (inOrder : InOrder text between trees high)
    (parts : whole.parts = frame.parts ++ trees)
    (first : frame.first? = some whole.span.first)
    (stop : whole.span.stop = high)
    (ends : high ≤ text.length + 1)
    (shown : whole.ShownIn text) :
    Laid text frames [whole] high := by
  subst stop
  cases stacked with
  | @opened _ _ column _ opening stacked before =>
      have same : whole.span.first = column := by
        rw [Frame.first?, opening] at first
        cases first
        rfl
      have ordered : InOrder text (column + 1) whole.parts whole.span.stop := by
        rw [parts]
        exact (inOrder_append _ _).mpr ⟨between, before, inOrder⟩
      have begins := stacked.begins
      have solid := ordered.le
      have faithful := ordered.node (by omega) (by omega) ends (by omega) (Nat.le_refl _) shown
      exact ⟨column, stacked, by omega, faithful, Nat.le_refl _⟩
  | @plain _ _ low _ unopened stacked before =>
      rw [Frame.first?, unopened, Option.none_or, Option.map_eq_some_iff] at first
      obtain ⟨head, isHead, same⟩ := first
      obtain ⟨others, split⟩ := List.head?_eq_some_iff.mp isHead
      have ordered : InOrder text low whole.parts whole.span.stop := by
        rw [parts]
        exact (inOrder_append _ _).mpr ⟨between, before, inOrder⟩
      have leading : whole.parts = head :: (others ++ trees) := by rw [parts, split]; rfl
      rw [leading] at ordered
      have located := ordered.2.1.located
      have begins := located.begins
      have solid := located.solid
      have behind := ordered.2.2.le
      have onward : InOrder text head.span.first whole.parts whole.span.stop := by
        rw [leading]
        exact ⟨Nat.le_refl _, ordered.2⟩
      have faithful := onward.node (by omega) (by omega) ends (by omega) (Nat.le_refl _) shown
      exact ⟨low, stacked, by rw [← same]; exact ordered.1, faithful, Nat.le_refl _⟩

/-- A construct goes on with what is read behind its complete parts. -/
theorem Stacked.extend
    {frame further : Frame}
    {between : Nat}
    (stacked : Stacked text (frame :: frames) between)
    (inOrder : InOrder text between trees high)
    (parts : further.parts = frame.parts ++ trees)
    (opening : further.opening? = frame.opening?) :
    Stacked text (further :: frames) high := by
  cases stacked with
  | plain unopened stacked before =>
      refine .plain (opening.trans unopened) stacked ?_
      rw [parts]
      exact (inOrder_append _ _).mpr ⟨between, before, inOrder⟩
  | opened opened stacked before =>
      refine .opened (opening.trans opened) stacked ?_
      rw [parts]
      exact (inOrder_append _ _).mpr ⟨between, before, inOrder⟩

/-- A construct without a token of its own in its node leaves what was read of it. -/
theorem Stacked.leave
    {frame : Frame}
    {between : Nat}
    (stacked : Stacked text (frame :: frames) between)
    (unopened : frame.opening? = none)
    (inOrder : InOrder text between trees high) :
    Laid text frames (frame.parts ++ trees) high := by
  cases stacked with
  | plain _ stacked before =>
      exact ⟨_, stacked, (inOrder_append _ _).mpr ⟨between, before, inOrder⟩⟩
  | opened opening =>
      rw [unopened] at opening
      cases opening

/-- A construct without a token of its own in its node opens where the last one ends. -/
theorem Stacked.enter
    {frame : Frame}
    (laid : Laid text frames trees high)
    (parts : frame.parts = trees)
    (unopened : frame.opening? = none) :
    Stacked text (frame :: frames) high := by
  obtain ⟨low, stacked, inOrder⟩ := laid
  exact .plain unopened stacked (parts ▸ inOrder)

/-! ## Steps keep the order -/

/-- An operand stands before the column where it ends. -/
theorem Laid.shrink (laid : Laid text frames [operand.tree] high) :
    Laid text frames [operand.tree] operand.tree.span.stop ∧ operand.tree.span.stop ≤ high ∧
      operand.tree.span.stop ≤ text.length + 1 := by
  obtain ⟨low, stacked, before, faithful, behind⟩ := laid
  exact ⟨⟨low, stacked, before, faithful, Nat.le_refl _⟩, behind, faithful.located.ends⟩

/-- A construct that ends with an operand becomes a node that ends there. -/
theorem Laid.complete
    {frame : Frame}
    {node : Operand}
    (laid : Laid text (frame :: frames) [operand.tree] high)
    (parts : node.tree.parts = frame.parts ++ [operand.tree])
    (first : frame.first? = some node.tree.span.first)
    (stop : node.tree.span.stop = operand.tree.span.stop)
    (shown : node.tree.ShownIn text) :
    Laid text frames [node.tree] high := by
  obtain ⟨⟨low, stacked, inOrder⟩, within, ends⟩ := laid.shrink
  exact (stacked.complete inOrder parts first stop ends shown).widen within

theorem Laid.unary
    {operator : UnaryOperator}
    {column : Nat}
    (laid : Laid text (.unary operator column :: frames) [operand.tree] high) :
    Laid text frames [(Operand.unary operator column operand).tree] high :=
  laid.complete rfl rfl rfl trivial

theorem Laid.binary
    {left : Operand}
    {operator : BinaryOperator}
    (laid : Laid text (.binary left operator :: frames) [operand.tree] high) :
    Laid text frames [(Operand.binary operator left operand).tree] high :=
  laid.complete rfl rfl rfl trivial

theorem Laid.choice
    {column : Nat}
    {done : List (Operand × Operand)}
    (laid : Laid text (.otherwise column done :: frames) [operand.tree] high) :
    Laid text frames [(Operand.choice column done.reverse operand).tree] high :=
  laid.complete (parts_choice column done operand) rfl rfl trivial

/-- Completing operators keeps the order. -/
theorem Laid.fold
    (level : Nat)
    (laid : Laid text frames [operand.tree] high) :
    Laid text (fold level frames operand).1 [(fold level frames operand).2.tree] high := by
  induction frames generalizing operand with
  | nil => exact laid
  | cons frame outer ih =>
      cases frame with
      | unary operator column =>
          rw [Expression.fold]
          split
          · exact ih laid.unary
          · exact laid
      | binary left operator =>
          rw [Expression.fold]
          split
          · exact ih laid.binary
          · exact laid
      | _ => exact laid

theorem Laid.close (laid : Laid text frames [operand.tree] high) :
    Laid text (close frames operand).1 [(close frames operand).2.tree] high := by
  induction frames generalizing operand with
  | nil => exact laid
  | cons frame outer ih =>
      cases frame with
      | unary operator column => exact ih laid.unary
      | binary left operator => exact ih laid.binary
      | otherwise column done => exact ih laid.choice
      | _ => exact laid

/-- A token covers the columns of its characters, and a string literal is in quotes. -/
structure Token.PlacedIn (text : List Char) (token : Token) : Prop where
  solid : token.span.first < token.span.stop
  ends : token.span.stop ≤ text.length + 1
  slice : token.span.slice text = token.lexeme
  quoted : token.terminal = .string →
    ∃ quote body, isQuote quote = true ∧ token.lexeme = quote :: (body ++ [quote])

/-- An operand that is a single token stands where the token does. -/
theorem Token.PlacedIn.single
    (placed : token.PlacedIn text)
    (begins : 1 ≤ token.span.first)
    (alone : token.operand? = some operand) :
    operand.tree.Faithful text ∧ operand.tree.span = token.span := by
  have leaf : operand.tree.parts = [] → operand.tree.span = token.span →
      operand.tree.ShownIn text → operand.tree.Faithful text ∧
        operand.tree.span = token.span := by
    intro none covers shown
    refine ⟨(Expr.faithful_iff _).mpr ⟨⟨?_, ?_, ?_, ?_, ?_, shown⟩, ?_⟩, covers⟩
    · rw [covers]
      exact begins
    · rw [covers]
      exact placed.solid
    · rw [covers]
      exact placed.ends
    all_goals simp [none]
  unfold Token.operand? at alone
  split at alone <;> rename_i kind <;> cases alone
  case h_1 =>
      refine leaf rfl rfl ?_
      show token.span.slice text = token.text.toList
      rw [placed.slice, Token.text, String.toList_ofList]
  case h_2 =>
      rw [Operand.number] at leaf ⊢
      split at leaf <;> exact leaf rfl rfl trivial
  case h_3 =>
      refine leaf rfl rfl ?_
      obtain ⟨quote, body, quoting, lexeme⟩ := placed.quoted kind
      refine ⟨quote, quoting, ?_⟩
      rw [placed.slice, lexeme]
      simp [String.toList_ofList]
  all_goals exact leaf rfl rfl trivial

theorem Begins.stands
    (begins : Begins frames token further)
    (stacked : Stacked text frames high)
    (behind : high ≤ token.span.first)
    (placed : token.PlacedIn text) :
    further.Stands text token.span.stop := by
  have solid := placed.solid
  have here := stacked.widen behind
  have onward := stacked.widen (Nat.le_trans behind (Nat.le_of_lt solid))
  cases begins with
  | single alone =>
      obtain ⟨faithful, covers⟩ := placed.single here.begins alone
      refine ⟨token.span.first, here, ?_, faithful, ?_⟩
      · rw [covers]
      · rw [covers]
        exact Nat.le_refl token.span.stop
  | unary leading => exact ⟨_, .opened rfl here solid, Nat.le_refl _⟩
  | group kind =>
      exact ⟨_, .plain rfl onward (Nat.le_refl token.span.stop), Nat.le_refl _⟩
  | table kind => exact ⟨_, .opened rfl here solid, Nat.le_refl _⟩
  | choice kind => exact ⟨_, .opened rfl here solid, Nat.le_refl _⟩

/-- A token that closes a construct ends its node. -/
theorem Closes.stands
    (closes : Closes token frames operand further)
    (laid : Laid text frames [operand.tree] high)
    (behind : high ≤ token.span.first)
    (placed : token.PlacedIn text) :
    further.Stands text token.span.stop := by
  have within : high ≤ token.span.stop := Nat.le_trans behind (Nat.le_of_lt placed.solid)
  obtain ⟨between, stacked, inOrder⟩ := laid.widen within
  have nothing := Nat.le_refl token.span.stop
  cases closes with
  | group | key => exact stacked.leave rfl inOrder
  | index => exact stacked.complete inOrder rfl rfl rfl placed.ends trivial
  | nextArgument => exact ⟨_, stacked.extend inOrder (by simp [Frame.parts]) rfl, nothing⟩
  | @lastArgument _ callee done argument =>
      refine stacked.complete inOrder ?_ ?_ ?_ placed.ends (shownIn_call _ _ _)
      · simp [parts_call, Frame.parts]
      · rw [span_call]
        rfl
      · rw [span_call]
  | nextField =>
      obtain ⟨low, stacked, inOrder⟩ := stacked.leave rfl inOrder
      refine ⟨_, stacked.extend inOrder ?_ rfl, nothing⟩
      simp [Frame.parts, parts_entry]
  | lastField =>
      obtain ⟨low, stacked, inOrder⟩ := stacked.leave rfl inOrder
      refine stacked.complete inOrder ?_ rfl rfl placed.ends trivial
      simp [Frame.parts, parts_table, parts_entry]
  | condition => exact ⟨_, stacked.extend inOrder rfl rfl, nothing⟩
  | nextBranch | otherwise =>
      exact ⟨_, stacked.extend inOrder (by simp [Frame.parts]) rfl, nothing⟩

theorem Continues.stands
    (continues : Continues frames operand token further)
    (laid : Laid text frames [operand.tree] high)
    (behind : high ≤ token.span.first)
    (placed : token.PlacedIn text) :
    further.Stands text token.span.stop := by
  have within : high ≤ token.span.stop := Nat.le_trans behind (Nat.le_of_lt placed.solid)
  have onward := laid.widen within
  have nothing := Nat.le_refl token.span.stop
  cases continues with
  | member | method => exact onward
  | index | call => exact ⟨_, Stacked.enter onward rfl rfl, nothing⟩
  | binary => exact ⟨_, Stacked.enter (onward.fold _) rfl rfl, nothing⟩
  | closing closes => exact closes.stands laid.close behind placed

/-- A step keeps the order of what is read. -/
theorem Moves.stands
    (moves : Moves token progress further)
    (stands : progress.Stands text high)
    (behind : high ≤ token.span.first)
    (placed : token.PlacedIn text) :
    further.Stands text token.span.stop := by
  have within : high ≤ token.span.stop := Nat.le_trans behind (Nat.le_of_lt placed.solid)
  have stacked : Stacked text progress.frames high := Laid.stacked stands
  have onward := Laid.widen stands within
  have nothing : InOrder text token.span.stop [] token.span.stop := Nat.le_refl _
  cases moves with
  | operand begins | firstArgument begins => exact begins.stands stacked behind placed
  | positional _ begins =>
      exact begins.stands (.plain rfl stacked (Nat.le_refl high)) behind placed
  | @noArgument _ callee done =>
      refine (stacked.widen within).complete nothing ?_ ?_ ?_ placed.ends (shownIn_call _ _ _)
      · simp [parts_call, Frame.parts]
      · rw [span_call]
        rfl
      · rw [span_call]
  | noField =>
      refine (stacked.widen within).complete nothing ?_ rfl rfl placed.ends trivial
      simp [Frame.parts, parts_table]
  | keyed => exact ⟨_, .plain rfl (stacked.widen within) nothing, nothing⟩
  | named kind =>
      have single : token.operand? = some (.leaf (.name token.span token.text)) := by
        rw [Token.operand?, kind]
      exact (Begins.single single).stands (.plain rfl stacked (Nat.le_refl high)) behind placed
  | complete continues | fieldName continues => exact continues.stands stands behind placed
  | nameField =>
      obtain ⟨low, outside, inOrder⟩ := (stacked.widen within).leave rfl nothing
      exact ⟨_, .plain rfl outside inOrder.le, nothing⟩
  | @member _ target =>
      -- The target stands as it would in front of a bracket that no key is read behind.
      have indexed : Stacked text (.index target :: _) token.span.stop := .enter onward rfl rfl
      exact indexed.complete nothing rfl rfl rfl placed.ends trivial
  | methodName => exact onward
  | methodCall => exact ⟨_, Stacked.enter onward rfl rfl, nothing⟩
  | keyValue => exact ⟨_, Stacked.enter onward rfl rfl, nothing⟩

theorem Progress.Stands.run
    {tokens : List Token}
    {final : Progress}
    (stands : progress.Stands text high)
    (placed : ∀ token ∈ tokens, high ≤ token.span.first ∧ token.PlacedIn text)
    (apart : tokens.Pairwise fun earlier later => earlier.span.stop ≤ later.span.first)
    (steps : tokens.foldlM Progress.step progress = some final) :
    ∃ wider, final.Stands text wider := by
  induction tokens generalizing progress high with
  | nil =>
      cases steps
      exact ⟨high, stands⟩
  | cons token tokens ih =>
      rw [List.foldlM_cons, Option.bind_eq_bind, Option.bind_eq_some_iff] at steps
      obtain ⟨further, stepped, steps⟩ := steps
      obtain ⟨behind, here⟩ := placed token List.mem_cons_self
      obtain ⟨first, apart⟩ := List.pairwise_cons.mp apart
      refine ih ((moves_of_step stepped).stands stands behind here) (fun later member => ?_) apart
        steps
      exact ⟨first later member, (placed later (List.mem_cons_of_mem token member)).2⟩

theorem Progress.Stands.finish
    (stands : progress.Stands text high)
    (finished : progress.finish? = some operand) :
    operand.tree.Faithful text := by
  unfold Progress.finish? at finished
  split at finished
  · rename_i last complete
    split at finished
    · rename_i whole closed
      cases finished
      have laid : Laid text progress.frames [last.tree] high := by
        have parts : progress.phase.parts = [last.tree] := by rw [complete]; rfl
        exact parts ▸ stands
      obtain ⟨low, _, inOrder⟩ := closed ▸ laid.close
      exact inOrder.2.1
    · cases finished
  · cases finished

/-! ## Tokens in a text of one line -/

theorem foldl_nextColumn
    {characters : List Char}
    (oneLine : '\n' ∉ characters)
    (column : Nat) :
    characters.foldl nextColumn column = column + characters.length := by
  induction characters generalizing column with
  | nil => rfl
  | cons c others ih =>
      obtain ⟨here, others⟩ := not_or.mp (List.mem_cons.not.mp oneLine)
      have step : nextColumn column c = column + 1 := by
        simp [nextColumn, Ne.symm here]
      rw [List.foldl_cons, step, ih others, List.length_cons]
      omega

theorem matchLength?_nil (terminal : Terminal) : terminal.matchLength? [] = none := by
  cases terminal <;> rfl

/-- The characters up to a closing quote are those in front of it, and the quote. -/
theorem take_of_closingDistance?
    {quote : Char}
    {characters : List Char}
    {distance : Nat}
    (found : closingDistance? quote characters = some distance) :
    ∃ body, characters.take distance = body ++ [quote] := by
  fun_induction closingDistance? quote characters generalizing distance with
  | case1 => cases found
  | case2 => cases found
  | case3 escaped rest _ ih =>
      obtain ⟨inner, matched, rfl⟩ := Option.map_eq_some_iff.mp found
      obtain ⟨body, taken⟩ := ih matched
      exact ⟨'\\' :: escaped :: body, by simp [taken]⟩
  | case4 => cases found
  | case5 c rest _ _ same =>
      cases found
      exact ⟨[], by simpa using same⟩
  | case6 => cases found
  | case7 c rest _ _ _ _ ih =>
      obtain ⟨inner, matched, rfl⟩ := Option.map_eq_some_iff.mp found
      obtain ⟨body, taken⟩ := ih matched
      exact ⟨c :: body, by simp [taken]⟩

/-- A token that stands in a text of one line covers the columns of its characters. -/
theorem Token.StandsAt.placedIn
    {place : Nat}
    (stands : token.StandsAt text place)
    (oneLine : '\n' ∉ text) :
    token.span = ⟨place + 1, place + token.lexeme.length + 1⟩ ∧ token.PlacedIn text := by
  obtain ⟨⟨length, matched, lexeme⟩, columns⟩ := stands
  have positive := matchLength?_pos matched
  have within : place < text.length := by
    by_contra beyond
    rw [List.drop_eq_nil_of_le (by omega), matchLength?_nil] at matched
    cases matched
  have size : token.lexeme.length = min length (text.length - place) := by
    rw [lexeme, List.length_take, List.length_drop]
  have known : ∀ c ∈ token.lexeme, c ∈ text := by
    intro c member
    rw [lexeme] at member
    exact List.mem_of_mem_drop (List.mem_of_mem_take member)
  have first : columnAt text place = place + 1 := by
    rw [columnAt, foldl_nextColumn fun member => oneLine (List.mem_of_mem_take member),
      List.length_take]
    omega
  have stop : stopColumn (place + 1) token.lexeme = place + token.lexeme.length + 1 := by
    have clear : '\n' ∉ token.lexeme.dropLast := fun member =>
      oneLine (known _ (List.dropLast_subset _ member))
    rw [stopColumn, foldl_nextColumn clear, List.length_dropLast]
    omega
  have span : token.span = ⟨place + 1, place + token.lexeme.length + 1⟩ := by
    rw [columns, first, stop]
  refine ⟨span, ?_⟩
  constructor
  case solid =>
    rw [span]
    dsimp only
    omega
  case ends =>
    rw [span]
    dsimp only
    omega
  case slice =>
    rw [span, Span.slice]
    dsimp only
    rw [Nat.add_sub_cancel, show place + token.lexeme.length + 1 - (place + 1) =
      token.lexeme.length by omega, lexeme, List.take_eq_take_iff]
    simp
  case quoted =>
    intro kind
    rw [kind, Terminal.matchLength?, stringLength?.eq_def] at matched
    split at matched
    · rename_i quote rest shape
      rw [Option.ite_none_right_eq_some] at matched
      obtain ⟨quoting, found⟩ := matched
      obtain ⟨distance, closes, rfl⟩ := Option.map_eq_some_iff.mp found
      obtain ⟨body, taken⟩ := take_of_closingDistance? closes
      exact ⟨quote, body, quoting, by rw [lexeme, shape, List.take_succ_cons, taken]⟩
    · cases matched

/-- What is read of a text of one line stands where its columns say. -/
theorem faithful_of_readOperand
    (read : readOperand text = .ok operand)
    (oneLine : '\n' ∉ text) :
    operand.tree.Faithful text := by
  obtain ⟨tokens, covers, reading⟩ := covers_of_readOperand read
  obtain ⟨final, steps, finished⟩ := Option.bind_eq_some_iff.mp reading
  have span : ∀ held ∈ tokens,
      held.2.span = ⟨held.1 + 1, held.1 + held.2.lexeme.length + 1⟩ ∧ held.2.PlacedIn text :=
    fun held member => (covers.stand held.1 held.2 member).2.placedIn oneLine
  have start : Progress.start.Stands text 1 := ⟨1, .nil (Nat.le_refl 1), Nat.le_refl 1⟩
  have placed : ∀ token ∈ tokens.map Prod.snd, 1 ≤ token.span.first ∧ token.PlacedIn text := by
    intro token member
    obtain ⟨held, listed, rfl⟩ := List.mem_map.mp member
    obtain ⟨columns, placed⟩ := span held listed
    exact ⟨by rw [columns]; exact Nat.succ_pos _, placed⟩
  have apart : (tokens.map Prod.snd).Pairwise fun earlier later =>
      earlier.span.stop ≤ later.span.first := by
    rw [List.pairwise_map]
    refine covers.apart.imp_of_mem fun {earlier later} here there apart => ?_
    rw [(span earlier here).1, (span later there).1]
    exact Nat.succ_le_succ apart.2
  obtain ⟨wider, stands⟩ := start.run placed apart steps
  exact stands.finish finished

/-! ## The names of a tree -/

/-- The names that a tree reads stand in it one behind the other. -/
theorem Expr.Faithful.names
    (faithful : whole.Faithful text) :
    (whole.names.Pairwise fun earlier later => earlier.span.stop ≤ later.span.first) ∧
      ∀ use ∈ whole.names, whole.span.first ≤ use.span.first ∧
        use.span.first < use.span.stop ∧ use.span.stop ≤ whole.span.stop := by
  induction whole using Expr.induct with
  | step whole ih =>
      obtain ⟨located, parts⟩ := whole.faithful_iff.mp faithful
      have inner := fun part member => ih part member (parts part member)
      have own : whole.ownName = [] ∨ ∃ span written, whole = .name span written := by
        cases whole
        case name span written => exact Or.inr ⟨span, written, rfl⟩
        all_goals exact Or.inl rfl
      rcases own with none | ⟨span, written, rfl⟩
      · rw [Expr.names_eq, none, List.nil_append]
        constructor
        · rw [List.pairwise_flatMap]
          refine ⟨fun part member => (inner part member).1, ?_⟩
          refine located.apart.imp_of_mem fun {earlier later} here there apart => ?_
          intro first inFirst second inSecond
          have := (inner earlier here).2 first inFirst
          have := (inner later there).2 second inSecond
          omega
        · intro use member
          obtain ⟨part, listed, member⟩ := List.mem_flatMap.mp member
          have := (inner part listed).2 use member
          have := located.inside part listed
          omega
      · rw [Expr.names]
        refine ⟨List.pairwise_singleton _ _, fun use member => ?_⟩
        rw [List.mem_singleton.mp member]
        exact ⟨Nat.le_refl _, located.solid, Nat.le_refl _⟩

/-- Where the nodes and the names of a tree stand in its text. -/
structure StandsWhereWritten (text : List Char) (tree : Expr) : Prop where
  nodes : ∀ node : Expr, node.Occurs tree → node.Located text
  names : tree.names.Pairwise fun earlier later => earlier.span.first < later.span.first

/-- The columns of every tree that is read from a text of one line are faithful. -/
theorem parse_standsWhereWritten
    {source field : String}
    {tree : Expr}
    (parsed : parse source field = .ok tree)
    (oneLine : '\n' ∉ source.toList) :
    StandsWhereWritten source.toList tree := by
  obtain ⟨operand, read, rfl⟩ := readOperand_of_parse parsed
  have faithful := faithful_of_readOperand read oneLine
  refine ⟨faithful, faithful.names.1.imp_of_mem fun {earlier later} here _ apart => ?_⟩
  have := faithful.names.2 earlier here
  omega

/-- A choice with a group, a call whose arguments are a negated group and a string, and a table. -/
theorem parse_standsWhereWritten_choice :
    '\n' ∉ "if (a) then f(-(b), 'it') else \x7b g = h.i \x7d".toList ∧
      ∃ tree, parse "if (a) then f(-(b), 'it') else \x7b g = h.i \x7d" "value" = .ok tree ∧
        tree.names = [⟨"a", ⟨5, 6⟩⟩, ⟨"f", ⟨13, 14⟩⟩, ⟨"b", ⟨17, 18⟩⟩, ⟨"h", ⟨38, 39⟩⟩] ∧
        StandsWhereWritten "if (a) then f(-(b), 'it') else \x7b g = h.i \x7d".toList tree := by
  have oneLine : '\n' ∉ "if (a) then f(-(b), 'it') else \x7b g = h.i \x7d".toList := by decide
  have names :
      (parse "if (a) then f(-(b), 'it') else \x7b g = h.i \x7d" "value").toOption.map Expr.names =
        some [⟨"a", ⟨5, 6⟩⟩, ⟨"f", ⟨13, 14⟩⟩, ⟨"b", ⟨17, 18⟩⟩, ⟨"h", ⟨38, 39⟩⟩] := by
    decide +kernel
  cases parsed : parse "if (a) then f(-(b), 'it') else \x7b g = h.i \x7d" "value" with
  | error fault =>
      rw [parsed] at names
      cases names
  | ok tree =>
      rw [parsed] at names
      exact ⟨oneLine, tree, rfl, Option.some.inj names, parse_standsWhereWritten parsed oneLine⟩

end LuauNodes.Expression
