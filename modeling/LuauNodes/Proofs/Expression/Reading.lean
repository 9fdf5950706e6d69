import LuauNodes.Proofs.Expression.Listings

/-!
# Reading what is written

Whatever a printer writes for a tree is read where the tree may stand, and means
the tree.  The proof follows the way in which the tree is written.
-/

namespace LuauNodes.Expression

theorem Spelled.ne_nil
    {tree : Expr}
    {pieces : List Piece}
    (spelled : Spelled tree pieces) :
    pieces ≠ [] := by
  cases spelled <;> simp

theorem Written.ne_nil
    {rank : Nat}
    {tree : Expr}
    {pieces : List Piece}
    (written : Written rank tree pieces) :
    pieces ≠ [] := by
  cases written with
  | bare _ spelled => exact spelled.ne_nil
  | grouped _ _ => exact List.cons_ne_nil _ _

theorem terminal_of_separating
    {separator : Piece}
    (separating : separator = .fixed .comma "," (by decide) ∨
      separator = .fixed .semicolon ";" (by decide)) :
    separator.terminal = .comma ∨ separator.terminal = .semicolon := by
  rcases separating with rfl | rfl
  · exact Or.inl rfl
  · exact Or.inr rfl

mutual

theorem reads_written
    {rank : Nat}
    {tree : Expr}
    {pieces : List Piece}
    (written : Written rank tree pieces)
    {frames : List Frame}
    (hosts : Hosts rank frames) :
    Yields (Reads rank frames tree pieces.length) pieces ⟨frames, .operand⟩ := by
  match written with
  | .bare fits spelled =>
      exact (reads_spelled spelled (hosts.mono fits)).lower fits
  | .grouped low spelled =>
      -- Inside parentheses every level is high enough.
      have hosting : Hosts tree.rank (.group :: frames) := hosts_of_admitsChoice rfl
      have inner := (reads_spelled spelled hosting).lower (Nat.zero_le _)
      exact (reads_grouped inner).resize (by simp)

theorem reads_spelled
    {tree : Expr}
    {pieces : List Piece}
    (spelled : Spelled tree pieces)
    {frames : List Frame}
    (hosts : Hosts tree.rank frames) :
    Yields (Reads tree.rank frames tree pieces.length) pieces ⟨frames, .operand⟩ := by
  match spelled with
  | .name named =>
      apply reads_single
      intro token shows
      exact ⟨_, shows.operand?_name, means_leaf rfl⟩
  | .number numbering =>
      apply reads_single
      intro token shows
      refine ⟨_, by rw [Token.operand?, shows.1]; rfl, ?_⟩
      rw [shows.2]
      exact means_number numbering _ _
  | .string quoting inside =>
      apply reads_single
      intro token shows
      refine ⟨_, by rw [Token.operand?, shows.1]; rfl, ?_⟩
      rw [shows.2]
      exact means_string _ _ _ _
  | .true =>
      apply reads_single
      intro token shows
      refine ⟨_, by rw [Token.operand?, shows.1]; rfl, ?_⟩
      exact means_leaf rfl
  | .false =>
      apply reads_single
      intro token shows
      refine ⟨_, by rw [Token.operand?, shows.1]; rfl, ?_⟩
      exact means_leaf rfl
  | .nil =>
      apply reads_single
      intro token shows
      refine ⟨_, by rw [Token.operand?, shows.1]; rfl, ?_⟩
      exact means_leaf rfl
  | .unary written =>
      exact reads_unary fun column => reads_written written (hosts_unary _ column)
  | .binary leftWritten rightWritten =>
      -- The left operand stands on the stack that hosts the whole, the right one on the operator.
      have leftHosts := hosts.mono (rank_le_leftRank _)
      apply Yields.resize (reads_binary hosts (reads_written leftWritten leftHosts)
        fun operand => reads_written rightWritten (hosts_binary operand _))
      simp
  | .field written named =>
      apply Yields.resize (reads_field (reads_written written hosts))
      simp
  | .index written keyWritten =>
      apply Yields.resize (reads_index (reads_written written hosts)
        fun operand => reads_written keyWritten (hosts_of_admitsChoice rfl))
      simp
  | .call written argumentsWritten =>
      apply Yields.resize (reads_call (reads_written written hosts)
        fun operand => calls_writtenArguments argumentsWritten)
      simp
  | .method written named argumentsWritten =>
      apply Yields.resize (reads_method (reads_written written hosts)
        fun operand => calls_writtenArguments argumentsWritten)
      simp
  | .table written =>
      apply Yields.resize (reads_table fun column =>
        @collects_writtenFields _ _ written frames column [])
      simp
  | @Spelled.choice span first others otherwise pieces otherPieces otherwisePieces written
      othersWritten otherwiseWritten =>
      have chooses : ∀ column, Yields (Chooses frames column [] (first :: others)
          (pieces.length + otherPieces.length))
          (pieces ++ (otherPieces ++ [.fixed .elseWord "else" (by decide)]))
          ⟨.condition column [] :: frames, .operand⟩ :=
        fun column => (decides_writtenBranch written).andThen
          fun between decides => chooses_writtenBranches othersWritten decides
      have reads : Yields (Reads 0 frames (.choice span (first :: others) otherwise) _) _ _ :=
        reads_choice (hosts.admits rfl) chooses
          fun column done => reads_written otherwiseWritten (hosts_of_admitsChoice rfl)
      rw [List.append_assoc, List.append_assoc, List.singleton_append] at reads
      apply reads.resize
      simp
      omega

theorem calls_writtenArguments
    {arguments : List Expr}
    {pieces : List Piece}
    (written : WrittenArguments arguments pieces)
    {frames : List Frame}
    {callee : Callee} :
    Yields (Calls frames callee [] arguments pieces.length)
      (pieces ++ [.fixed .closeParen ")" (by decide)])
      ⟨.arguments callee [] :: frames, .firstArgument⟩ := by
  match written with
  | .none => exact calls_none
  | .some written othersWritten =>
      rw [List.append_assoc, List.length_append]
      have calls : Yields _ _ ⟨.arguments callee [] :: frames, .operand⟩ :=
        calls_cons (reads_written written (hosts_of_admitsChoice rfl))
          fun opened last whole closed => calls_furtherArguments othersWritten closed
      apply yields_firstArgument _ calls
      exact List.append_ne_nil_of_left_ne_nil written.ne_nil _

theorem calls_furtherArguments
    {others : List Expr}
    {pieces : List Piece}
    (written : FurtherArguments others pieces)
    {frames opened : List Frame}
    {callee : Callee}
    {done : List Operand}
    {whole last : Operand}
    (closed : close opened last = (.arguments callee done :: frames, whole)) :
    Yields (Calls frames callee (whole :: done).reverse others pieces.length)
      (pieces ++ [.fixed .closeParen ")" (by decide)]) ⟨opened, .complete last⟩ := by
  match written with
  | .none => exact calls_done closed
  | .some written othersWritten =>
      rw [List.cons_append, List.append_assoc]
      apply calls_comma closed
      refine Yields.mono (calls_cons (reads_written written (hosts_of_admitsChoice rfl))
        fun opened last whole closed => calls_furtherArguments othersWritten closed) ?_
      exact fun _ calls => calls.mono (by simp)

theorem enters_writtenField
    {field : TableField}
    {pieces : List Piece}
    (written : WrittenField field pieces)
    {frames : List Frame}
    {next : Piece}
    {rest : List Piece}
    {Holds : Progress → Prop}
    (onward : ∀ between, Enters frames field pieces.length between →
      Yields Holds (next :: rest) between) :
    Yields Holds (pieces ++ next :: rest) ⟨frames, .field⟩ := by
  match written with
  | .keyed keyWritten written =>
      refine Yields.andThen (enters_keyed (reads_written keyWritten (hosts_of_admitsChoice rfl))
        fun operand => reads_written written (hosts_of_admitsChoice rfl)) ?_
      exact fun between enters => onward between (enters.mono (by simp; omega))
  | .named named written =>
      refine Yields.andThen
        (enters_named (reads_written written (hosts_of_admitsChoice rfl))) ?_
      exact fun between enters => onward between (enters.mono (by simp; omega))
  | .positional written =>
      exact enters_positional written.ne_nil (reads_written written (hosts_of_admitsChoice rfl))
        onward

theorem collects_writtenFields
    {fields : List TableField}
    {pieces : List Piece}
    (written : WrittenFields fields pieces)
    {frames : List Frame}
    {column : Nat}
    {done : List Entry} :
    Yields (Collects frames column done.reverse fields pieces.length)
      (pieces ++ [.fixed .closeBrace "\x7d" (by decide)])
      ⟨.table column done :: frames, .field⟩ := by
  match written with
  | .none => exact collects_none
  | .last written =>
      exact enters_writtenField written fun between enters => collects_last enters
  | .more written separating othersWritten =>
      have separates := terminal_of_separating separating
      rw [List.append_assoc, List.cons_append]
      apply enters_writtenField written
      intro between enters
      refine Yields.mono (collects_more separates enters
        fun entry => collects_writtenFields othersWritten) ?_
      exact fun _ collects => collects.mono (by simp)

theorem decides_writtenBranch
    {branch : Branch}
    {pieces : List Piece}
    (written : WrittenBranch branch pieces)
    {frames : List Frame}
    {column : Nat}
    {done : List (Operand × Operand)} :
    Yields (Decides frames column done branch pieces.length) pieces
      ⟨.condition column done :: frames, .operand⟩ := by
  match written with
  | .mk written valueWritten =>
      refine Yields.mono (decides_branch (reads_written written (hosts_of_admitsChoice rfl))
        fun operand => reads_written valueWritten (hosts_of_admitsChoice rfl)) ?_
      exact fun _ decides => decides.mono (by simp)

theorem chooses_writtenBranches
    {branch : Branch}
    {others : List Branch}
    {pieces : List Piece}
    (written : WrittenBranches others pieces)
    {size : Nat}
    {progress : Progress}
    {frames : List Frame}
    {column : Nat}
    {done : List (Operand × Operand)}
    (decides : Decides frames column done branch size progress) :
    Yields (Chooses frames column done (branch :: others) (size + pieces.length))
      (pieces ++ [.fixed .elseWord "else" (by decide)]) progress := by
  match written with
  | .none => exact chooses_last decides
  | .some written othersWritten =>
      rw [List.cons_append, List.append_assoc]
      refine Yields.mono (chooses_more decides fun operands =>
        (decides_writtenBranch written).andThen fun between further =>
          chooses_writtenBranches othersWritten further) ?_
      exact fun _ chooses => chooses.mono (by simp)

end

end LuauNodes.Expression
