import LuauNodes.Proofs.Expression.Balancing
import Mathlib.Data.List.Induction

/-!
# Texts with matching brackets and quotes

A text is balanced if it is made of complete string literals and of characters
outside of them, among which the brackets are properly nested.  The scan that
precedes the grammar is exact: it passes the balanced texts, and of any other it
names the place that tells where it goes wrong.  Behind every part of a text the
scan stands outside of literals with some open brackets, or inside a literal, or
it has met a closing bracket that nothing can follow.
-/

namespace LuauNodes.Expression

variable {text before after word : List Char} {outer : List Char} {opened : List (Char × Nat)}
  {c first last quote : Char}

/-! ## Balanced texts -/

/-- A bracket of one of the three kinds. -/
def isBracket (c : Char) : Bool := (closerOf? c).isSome || isCloser c

/-- Properly nested words over the brackets of the three kinds. -/
inductive WellNested : List Char → Prop where
  | nil : WellNested []
  | pair
      {first last : Char}
      {inner rest : List Char}
      (pairs : closerOf? first = some last)
      (nested : WellNested inner)
      (others : WellNested rest) :
      WellNested (first :: (inner ++ last :: rest))

/-- A text splits into complete string literals and the characters outside of them. -/
inductive Splits : List Char → List Char → Prop where
  | nil : Splits [] []
  | plain
      {c : Char}
      {text outer : List Char}
      (unquoted : isQuote c = false)
      (splits : Splits text outer) :
      Splits (c :: text) (c :: outer)
  | literal
      {quote : Char}
      {body text outer : List Char}
      (quoting : isQuote quote = true)
      (inside : Inside quote body)
      (splits : Splits text outer) :
      Splits (quote :: (body ++ quote :: text)) outer

/-- The brackets outside of the string literals of a text are properly nested. -/
def Balanced (text : List Char) : Prop :=
  ∃ outer, Splits text outer ∧ WellNested (outer.filter isBracket)

/-- A text can be made balanced by writing more behind it. -/
def Extendable (text : List Char) : Prop := ∃ more, Balanced (text ++ more)

/-- What stands behind a quote up to the end of a text that does not close it; a backslash may be
left alone at the end. -/
def Unfinished (quote : Char) (body : List Char) : Prop :=
  Inside quote body ∨ ∃ inner, Inside quote inner ∧ body = inner ++ ['\\']

/-- What the scan finds in a text. -/
inductive Judged (text : List Char) : Option Fault → Prop where
  /-- Nothing is wrong with a balanced text. -/
  | balanced (balanced : Balanced text) : Judged text none
  /-- A closing bracket behind which the text cannot be made balanced any more. -/
  | closer
      {before after : List Char}
      {c : Char}
      (shape : text = before ++ c :: after)
      (closing : isCloser c = true)
      (extendable : Extendable before)
      (stuck : ¬Extendable (before ++ [c])) :
      Judged text (some (.unmatchedBracket c (before.length + 1)))
  /-- Else a quote outside of literals that nothing closes. -/
  | literal
      {before body outer : List Char}
      {quote : Char}
      (shape : text = before ++ quote :: body)
      (extendable : Extendable text)
      (complete : Splits before outer)
      (quoting : isQuote quote = true)
      (unfinished : Unfinished quote body) :
      Judged text (some (.unclosedString (before.length + 1)))
  /-- Else an opening bracket outside of literals behind which all brackets are closed. -/
  | opener
      {before after outer : List Char}
      {c closer : Char}
      (shape : text = before ++ c :: after)
      (extendable : Extendable text)
      (complete : Splits before outer)
      (opening : closerOf? c = some closer)
      (balanced : Balanced after) :
      Judged text (some (.unmatchedBracket c (before.length + 1)))

theorem isQuote_of_opening (pairs : closerOf? first = some last) : isQuote first = false := by
  unfold closerOf? at pairs
  split at pairs <;> cases pairs <;> rfl

theorem isCloser_of_pair (pairs : closerOf? first = some last) :
    isCloser last = true ∧ isQuote last = false := by
  unfold closerOf? at pairs
  split at pairs <;> cases pairs <;> decide

theorem isBracket_of_pair (pairs : closerOf? first = some last) :
    isBracket first = true ∧ isBracket last = true := by
  simp [isBracket, pairs, (isCloser_of_pair pairs).1]

theorem Splits.append
    {text more outer others : List Char}
    (splits : Splits text outer)
    (behind : Splits more others) :
    Splits (text ++ more) (outer ++ others) := by
  induction splits with
  | nil => exact behind
  | plain unquoted _ ih => exact .plain unquoted ih
  | literal quoting inside _ ih =>
      rw [List.cons_append, List.append_assoc, List.cons_append]
      exact .literal quoting inside ih

/-- A character outside of literals stands between two texts that split. -/
theorem Splits.of_append
    {front back : List Char}
    (splits : Splits text (front ++ c :: back)) :
    ∃ before after, text = before ++ c :: after ∧ Splits before front ∧ Splits after back := by
  generalize whole : front ++ c :: back = outer at splits
  induction splits generalizing front with
  | nil => simp at whole
  | @plain other text outer unquoted splits ih =>
      cases front with
      | nil =>
          cases whole
          exact ⟨[], text, rfl, .nil, splits⟩
      | cons d front =>
          cases whole
          obtain ⟨before, after, rfl, first, second⟩ := ih rfl
          exact ⟨other :: before, after, rfl, .plain unquoted first, second⟩
  | literal quoting inside _ ih =>
      obtain ⟨before, after, rfl, first, second⟩ := ih whole
      refine ⟨_, after, ?_, .literal quoting inside first, second⟩
      simp

theorem WellNested.append
    (nested : WellNested word)
    {more : List Char}
    (behind : WellNested more) :
    WellNested (word ++ more) := by
  induction nested with
  | nil => exact behind
  | pair pairs nested _ _ ih =>
      rw [List.cons_append, List.append_assoc, List.cons_append]
      exact .pair pairs nested ih

theorem balanced_nil : Balanced [] := ⟨[], .nil, .nil⟩

theorem Balanced.append (balanced : Balanced before) (behind : Balanced after) :
    Balanced (before ++ after) := by
  obtain ⟨outer, splits, nested⟩ := balanced
  obtain ⟨others, further, nestedToo⟩ := behind
  refine ⟨outer ++ others, splits.append further, ?_⟩
  rw [List.filter_append]
  exact nested.append nestedToo

theorem balanced_plain (unquoted : isQuote c = false) (plain : isBracket c = false) :
    Balanced [c] := by
  refine ⟨[c], .plain unquoted .nil, ?_⟩
  rw [List.filter_cons_of_neg (by rw [plain]; exact Bool.false_ne_true)]
  exact .nil

theorem balanced_literal
    {body : List Char}
    (quoting : isQuote quote = true)
    (inside : Inside quote body) :
    Balanced (quote :: (body ++ [quote])) :=
  ⟨[], .literal quoting inside .nil, .nil⟩

theorem Balanced.enclosed
    (balanced : Balanced text)
    (pairs : closerOf? first = some last) :
    Balanced (first :: (text ++ [last])) := by
  obtain ⟨outer, splits, nested⟩ := balanced
  obtain ⟨opens, closes⟩ := isBracket_of_pair pairs
  refine ⟨first :: (outer ++ [last]), ?_, ?_⟩
  · exact .plain (isQuote_of_opening pairs)
      (splits.append (.plain (isCloser_of_pair pairs).2 .nil))
  · rw [List.filter_cons_of_pos opens, List.filter_append, List.filter_cons_of_pos closes]
    exact .pair pairs nested .nil

/-! ## The scan of balanced texts -/

theorem exists_of_filter_eq_append_cons
    {α : Type}
    {keep : α → Bool}
    {items front back : List α}
    {item : α}
    (kept : items.filter keep = front ++ item :: back) :
    ∃ before after, items = before ++ item :: after ∧ before.filter keep = front ∧
      after.filter keep = back := by
  obtain ⟨start, rest, rfl, front_eq, rest_eq⟩ := List.filter_eq_append_iff.mp kept
  obtain ⟨skipped, after, rfl, none, _, back_eq⟩ := List.filter_eq_cons_iff.mp rest_eq
  refine ⟨start ++ skipped, after, by simp, ?_, back_eq⟩
  rw [List.filter_append, front_eq, List.filter_eq_nil_iff.mpr none, List.append_nil]

theorem balanceFault?_of_unbracketed
    (splits : Splits text outer)
    (plain : outer.filter isBracket = [])
    (column : Nat)
    (opened : List (Char × Nat))
    (rest : List Char) :
    balanceFault? column opened none (text ++ rest) =
      balanceFault? (column + text.length) opened none rest := by
  induction splits generalizing column with
  | nil => rfl
  | @plain c text outer unquoted _ ih =>
      have clear := List.filter_eq_nil_iff.mp plain
      have apart : c ∉ specials := by
        have unbracketed := clear c List.mem_cons_self
        intro special
        simp only [specials, List.mem_cons, List.not_mem_nil, or_false] at special
        rcases special with rfl | rfl | rfl | rfl | rfl | rfl | rfl | rfl | rfl <;>
          first | exact unbracketed rfl | cases unquoted
      have others : outer.filter isBracket = [] :=
        List.filter_eq_nil_iff.mpr fun other member => clear other (List.mem_cons_of_mem c member)
      have further : column + (c :: text).length = column + 1 + text.length := by
        rw [List.length_cons]
        omega
      rw [further, ← ih others, List.cons_append, balanceFault?_plain apart]
  | @literal quote body text outer quoting inside _ ih =>
      have further : column + (quote :: (body ++ quote :: text)).length =
          column + 1 + body.length + 1 + text.length := by
        simp only [List.length_cons, List.length_append]
        omega
      rw [further, ← ih plain, List.cons_append, List.append_assoc, List.cons_append,
        balanceFault?_quote quoting, balanceFault?_body (ne_backslash_of_isQuote quoting) inside]

/-- The scan is behind a balanced text as it was in front of it. -/
theorem Balanced.scan
    (balanced : Balanced text)
    (column : Nat)
    (opened : List (Char × Nat))
    (rest : List Char) :
    balanceFault? column opened none (text ++ rest) =
      balanceFault? (column + text.length) opened none rest := by
  obtain ⟨outer, splits, nested⟩ := balanced
  -- The induction is on the nesting; the literals lie between the brackets that it takes apart.
  generalize known : outer.filter isBracket = word at nested
  induction nested generalizing text outer column opened rest with
  | nil => exact balanceFault?_of_unbracketed splits known column opened rest
  | @pair first last inner others pairs _ _ innerScan othersScan =>
      obtain ⟨front, back, rfl, plain, kept⟩ :=
        @exists_of_filter_eq_append_cons _ _ _ [] _ _ known
      obtain ⟨middle, behind, rfl, within, beyond⟩ := exists_of_filter_eq_append_cons kept
      obtain ⟨start, tail, rfl, frontSplits, tailSplits⟩ := splits.of_append
      obtain ⟨enclosed, rest', rfl, middleSplits, behindSplits⟩ := tailSplits.of_append
      rw [List.append_assoc, balanceFault?_of_unbracketed frontSplits plain, List.cons_append,
        balanceFault?_opening pairs, List.append_assoc, innerScan _ _ _ _ middleSplits within,
        List.cons_append, balanceFault?_closing pairs, othersScan _ _ _ _ behindSplits beyond]
      congr 1
      simp only [List.length_append, List.length_cons]
      omega

/-! ## Where the scan stands -/

/-- A text of complete literals, with the brackets that are open at its end, innermost first. -/
inductive OpenAt : List Char → List (Char × Nat) → Prop where
  | balanced {text : List Char} (balanced : Balanced text) : OpenAt text []
  | opened
      {before after : List Char}
      {opened : List (Char × Nat)}
      {first last : Char}
      (openAt : OpenAt before opened)
      (pairs : closerOf? first = some last)
      (balanced : Balanced after) :
      OpenAt (before ++ first :: after) ((first, before.length + 1) :: opened)

theorem OpenAt.scan
    (openAt : OpenAt text opened)
    (rest : List Char) :
    balanceFault? 1 [] none (text ++ rest) =
      balanceFault? (text.length + 1) opened none rest := by
  induction openAt generalizing rest with
  | balanced balanced => rw [balanced.scan, Nat.add_comm]
  | opened _ pairs balanced ih =>
      rw [List.append_assoc, ih, List.cons_append, balanceFault?_opening pairs, balanced.scan]
      congr 1
      simp only [List.length_append, List.length_cons]
      omega

theorem OpenAt.append
    (openAt : OpenAt before opened)
    (balanced : Balanced after) :
    OpenAt (before ++ after) opened := by
  cases openAt with
  | balanced first => exact .balanced (first.append balanced)
  | opened openAt pairs first =>
      rw [List.append_assoc, List.cons_append]
      exact .opened openAt pairs (first.append balanced)

theorem OpenAt.close
    {place : Nat}
    (openAt : OpenAt text ((first, place) :: opened))
    (pairs : closerOf? first = some last) :
    OpenAt (text ++ [last]) opened := by
  cases openAt with
  | opened openAt _ balanced =>
      rw [List.append_assoc, List.cons_append]
      exact openAt.append (balanced.enclosed pairs)

/-- Open brackets can be closed one after the other. -/
theorem OpenAt.extendable (openAt : OpenAt text opened) : Extendable text := by
  induction opened generalizing text with
  | nil =>
      cases openAt with
      | balanced balanced => exact ⟨[], by rwa [List.append_nil]⟩
  | cons bracket opened ih =>
      obtain ⟨first, place⟩ := bracket
      have pairs : ∃ last, closerOf? first = some last := by
        cases openAt with
        | opened _ pairs _ => exact ⟨_, pairs⟩
      obtain ⟨last, pairs⟩ := pairs
      obtain ⟨more, balanced⟩ := ih (openAt.close pairs)
      exact ⟨last :: more, by simpa using balanced⟩

theorem OpenAt.splits (openAt : OpenAt text opened) : ∃ outer, Splits text outer := by
  induction openAt with
  | balanced balanced =>
      obtain ⟨outer, splits, _⟩ := balanced
      exact ⟨outer, splits⟩
  | opened _ pairs balanced ih =>
      obtain ⟨outer, splits⟩ := ih
      obtain ⟨others, further, _⟩ := balanced
      exact ⟨_, splits.append (.plain (isQuote_of_opening pairs) further)⟩

theorem Extendable.of_append (extendable : Extendable (before ++ after)) : Extendable before := by
  obtain ⟨more, balanced⟩ := extendable
  exact ⟨after ++ more, by rwa [← List.append_assoc]⟩

theorem Inside.append
    {body more : List Char}
    (inside : Inside quote body)
    (behind : Inside quote more) :
    Inside quote (body ++ more) := by
  induction inside with
  | nil => exact behind
  | escaped _ ih => exact .escaped ih
  | plain apart unescaped _ ih => exact .plain apart unescaped ih

/-- A closing bracket that does not close the innermost open one. -/
def Mismatched (c : Char) (opened : List (Char × Nat)) : Prop :=
  isCloser c = true ∧ ∀ first place others, opened = (first, place) :: others →
    closerOf? first ≠ some c

/-- Where the scan stands behind a text. -/
inductive Reaches : List Char → Prop where
  | outside
      {text : List Char}
      {opened : List (Char × Nat)}
      (openAt : OpenAt text opened) :
      Reaches text
  | within
      {before body : List Char}
      {opened : List (Char × Nat)}
      {quote : Char}
      (openAt : OpenAt before opened)
      (quoting : isQuote quote = true)
      (unfinished : Unfinished quote body) :
      Reaches (before ++ quote :: body)
  | failed
      {before : List Char}
      {opened : List (Char × Nat)}
      {c : Char}
      (openAt : OpenAt before opened)
      (mismatched : Mismatched c opened)
      (after : List Char) :
      Reaches (before ++ c :: after)

theorem OpenAt.next (openAt : OpenAt text opened) (c : Char) : Reaches (text ++ [c]) := by
  cases quoting : isQuote c with
  | true => exact .within openAt quoting (Or.inl .nil)
  | false =>
      cases pairs : closerOf? c with
      | some last => exact .outside (.opened openAt pairs balanced_nil)
      | none =>
          cases closing : isCloser c with
          | false =>
              have plain : isBracket c = false := by simp [isBracket, pairs, closing]
              exact .outside (openAt.append (balanced_plain quoting plain))
          | true =>
              by_cases mismatched : Mismatched c opened
              · exact .failed openAt mismatched []
              · simp only [Mismatched, closing, true_and, not_forall] at mismatched
                obtain ⟨first, place, others, rfl, matching⟩ := mismatched
                exact .outside (openAt.close (not_not.mp matching))

/-- A literal goes on or is closed. -/
theorem OpenAt.nextWithin
    {body : List Char}
    (openAt : OpenAt before opened)
    (quoting : isQuote quote = true)
    (unfinished : Unfinished quote body)
    (c : Char) :
    Reaches (before ++ quote :: (body ++ [c])) := by
  rcases unfinished with inside | ⟨inner, inside, rfl⟩
  · by_cases escaping : c = '\\'
    · subst escaping
      exact .within openAt quoting (Or.inr ⟨body, inside, rfl⟩)
    · by_cases closing : c = quote
      · subst closing
        exact .outside (openAt.append (balanced_literal quoting inside))
      · exact .within openAt quoting (Or.inl (inside.append (.plain closing escaping .nil)))
  · rw [List.append_assoc]
    exact .within openAt quoting (Or.inl (inside.append (.escaped .nil)))

theorem reaches (text : List Char) : Reaches text := by
  induction text using List.reverseRecOn with
  | nil => exact .outside (.balanced balanced_nil)
  | append_singleton text c ih =>
      cases ih with
      | outside openAt => exact openAt.next c
      | within openAt quoting unfinished =>
          rw [List.append_assoc, List.cons_append]
          exact openAt.nextWithin quoting unfinished c
      | failed openAt mismatched after =>
          rw [List.append_assoc, List.cons_append]
          exact .failed openAt mismatched (after ++ [c])

/-! ## What the scan finds -/

theorem OpenAt.scan_within
    {body : List Char}
    (openAt : OpenAt before opened)
    (quoting : isQuote quote = true)
    (unfinished : Unfinished quote body) :
    textBalanceFault? (before ++ quote :: body) = some (.unclosedString (before.length + 1)) := by
  rw [textBalanceFault?, openAt.scan, balanceFault?_quote quoting]
  rcases unfinished with inside | ⟨inner, inside, rfl⟩
  · have scan := balanceFault?_units inside (before.length + 1 + 1) (before.length + 1) opened []
    rw [List.append_nil] at scan
    rw [scan]
    rfl
  · rw [balanceFault?_units inside]
    rfl

theorem unopening_of_isCloser (closing : isCloser c = true) :
    isQuote c = false ∧ closerOf? c = none := by
  simp only [isCloser, Bool.or_eq_true, beq_iff_eq] at closing
  rcases closing with (rfl | rfl) | rfl <;> decide

theorem OpenAt.scan_failed
    (openAt : OpenAt before opened)
    (mismatched : Mismatched c opened)
    (after : List Char) :
    textBalanceFault? (before ++ c :: after) =
      some (.unmatchedBracket c (before.length + 1)) := by
  obtain ⟨closing, apart⟩ := mismatched
  obtain ⟨unquoted, unopening⟩ := unopening_of_isCloser closing
  rw [textBalanceFault?, openAt.scan, balanceFault?.eq_def]
  cases opened with
  | nil => simp [unquoted, unopening, closing]
  | cons bracket others =>
      have differs := apart bracket.1 bracket.2 others rfl
      simp [unquoted, unopening, closing, differs]

/-- Nothing that stands behind a bracket which closes nothing makes a text balanced. -/
theorem OpenAt.not_extendable
    (openAt : OpenAt before opened)
    (mismatched : Mismatched c opened) :
    ¬Extendable (before ++ c :: after) := by
  rintro ⟨more, balanced⟩
  have passed : textBalanceFault? (before ++ c :: (after ++ more)) = none := by
    have scan := balanced.scan 1 [] []
    rw [List.append_nil, List.append_assoc, List.cons_append] at scan
    exact scan
  rw [openAt.scan_failed mismatched] at passed
  cases passed

/-- No literal is unfinished at the end of a text of complete literals. -/
theorem Splits.scan_ne_unclosed
    (splits : Splits text outer)
    (column : Nat)
    (opened : List (Char × Nat))
    (place : Nat) :
    balanceFault? column opened none text ≠ some (.unclosedString place) := by
  induction splits generalizing column opened with
  | nil => cases opened <;> simp [balanceFault?]
  | @plain c text outer unquoted _ ih =>
      rw [balanceFault?.eq_def]
      simp only [unquoted, Bool.false_eq_true, if_false]
      split
      · exact ih _ _
      · split
        · split
          · split
            · exact ih _ _
            · simp
          · simp
        · exact ih _ _
  | literal quoting inside _ ih =>
      rw [balanceFault?_quote quoting, balanceFault?_body (ne_backslash_of_isQuote quoting) inside]
      exact ih _ _

/-- An extendable text of complete literals leaves some brackets open. -/
theorem Extendable.openAt
    (extendable : Extendable text)
    (splits : Splits text outer) :
    ∃ opened, OpenAt text opened := by
  cases reaches text with
  | outside openAt => exact ⟨_, openAt⟩
  | within openAt quoting unfinished =>
      exact absurd (openAt.scan_within quoting unfinished) (splits.scan_ne_unclosed _ _ _)
  | failed openAt mismatched after => exact absurd extendable (openAt.not_extendable mismatched)

/-- An unfinished literal can be closed. -/
theorem OpenAt.extendable_within
    {body : List Char}
    (openAt : OpenAt before opened)
    (quoting : isQuote quote = true)
    (unfinished : Unfinished quote body) :
    Extendable (before ++ quote :: body) := by
  rcases unfinished with inside | ⟨inner, inside, rfl⟩
  · have closed := openAt.append (balanced_literal quoting inside)
    rw [← List.cons_append, ← List.append_assoc] at closed
    exact closed.extendable.of_append
  · have whole : Inside quote (inner ++ ['\\', quote]) := inside.append (.escaped .nil)
    have closed := (openAt.append (balanced_literal quoting whole)).extendable
    have shape : before ++ quote :: (inner ++ ['\\', quote] ++ [quote]) =
        before ++ quote :: (inner ++ ['\\']) ++ [quote, quote] := by simp
    rw [shape] at closed
    exact closed.of_append

/-- What the scan finds is true of the text. -/
theorem judged_textBalanceFault? (text : List Char) : Judged text (textBalanceFault? text) := by
  cases reaches text with
  | outside openAt =>
      have scan := openAt.scan []
      rw [List.append_nil] at scan
      cases openAt with
      | balanced balanced =>
          rw [textBalanceFault?, scan]
          exact .balanced balanced
      | @opened before after opened first last openAt pairs balanced =>
          obtain ⟨outer, splits⟩ := openAt.splits
          rw [textBalanceFault?, scan]
          exact .opener rfl (OpenAt.opened openAt pairs balanced).extendable splits pairs balanced
  | within openAt quoting unfinished =>
      obtain ⟨outer, splits⟩ := openAt.splits
      rw [openAt.scan_within quoting unfinished]
      exact .literal rfl (openAt.extendable_within quoting unfinished) splits quoting unfinished
  | failed openAt mismatched after =>
      rw [openAt.scan_failed mismatched]
      exact .closer rfl mismatched.1 openAt.extendable (openAt.not_extendable mismatched)

/-- The scan finds what is true of the text. -/
theorem Judged.scan
    {fault : Option Fault}
    (judged : Judged text fault) :
    textBalanceFault? text = fault := by
  cases judged with
  | balanced balanced =>
      have scan := balanced.scan 1 [] []
      rwa [List.append_nil] at scan
  | @closer before after c shape closing extendable stuck =>
      subst shape
      generalize whole : before ++ [c] = front at stuck
      cases reaches front with
      | outside openAt => exact absurd openAt.extendable stuck
      | within openAt quoting unfinished =>
          exact absurd (openAt.extendable_within quoting unfinished) stuck
      | @failed start opened closer openAt mismatched rest =>
          rcases List.eq_nil_or_concat rest with rfl | ⟨inner, last, rfl⟩
          · obtain ⟨rfl, same⟩ := List.append_inj' whole rfl
            cases same
            exact openAt.scan_failed mismatched after
          · -- Had the scan stopped earlier, what stands in front of the bracket could not go on.
            have parts : before = start ++ closer :: inner := by
              rw [List.concat_eq_append, ← List.cons_append, ← List.append_assoc] at whole
              exact (List.append_inj' whole rfl).1
            rw [parts] at extendable
            exact absurd extendable (openAt.not_extendable mismatched)
  | literal shape extendable complete quoting unfinished =>
      subst shape
      obtain ⟨opened, openAt⟩ := extendable.of_append.openAt complete
      exact openAt.scan_within quoting unfinished
  | opener shape extendable complete opening balanced =>
      subst shape
      obtain ⟨opened, openAt⟩ := extendable.of_append.openAt complete
      have scan := (OpenAt.opened openAt opening balanced).scan []
      rw [List.append_nil] at scan
      rw [textBalanceFault?, scan]
      rfl

/-- The scan passes the balanced texts, and of every other text it names the place where the text
stops being extendable to a balanced one, else its unfinished literal, else the last bracket that
is still open. -/
theorem textBalanceFault?_eq_iff (text : List Char) (fault : Option Fault) :
    textBalanceFault? text = fault ↔ Judged text fault := by
  constructor
  · rintro rfl
    exact judged_textBalanceFault? text
  · exact Judged.scan

example : textBalanceFault? "f(')', [1)".toList = some (.unmatchedBracket ')' 10) := by decide

example : textBalanceFault? "f([1], 'a".toList = some (.unclosedString 8) := by decide

end LuauNodes.Expression
