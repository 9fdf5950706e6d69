import LuauNodes.Proofs.Node.Status
import Mathlib.Data.String.Basic

/-!
# Variables of for loops

A for loop that is not invalid declares the variables that its text names, each
one and in their order: a loop that counts has one variable, and one over an
iterator has a variable for every name between commas.  A text that is blank
stands for the default name in both, so there is always a variable, except where
the text of a loop over an iterator holds commas and blanks alone.  It names
nothing then, and nothing is wrong with it.
-/

namespace LuauNodes

open LuauNodes.Text

/-! ## Texts between commas -/

open String in
/-- Splitting goes on behind the pieces that are done and the part of a piece that is read. -/
theorem splitOnAux_comma (done piece rest : List Char) (pieces : List String) :
    splitOnAux (ofList (done ++ piece ++ rest)) "," ⟨utf8Len done⟩ ⟨utf8Len done + utf8Len piece⟩ 0
        pieces =
      pieces.reverse ++ (List.splitOnPPrepend (· == ',') rest piece.reverse).map ofList := by
  -- A comma moves the piece to what is done, any other character makes it longer.
  induction rest generalizing done piece pieces with
  | nil =>
      have ended : Pos.Raw.atEnd (ofList (done ++ piece ++ [])) ⟨utf8Len done + utf8Len piece⟩ =
          true := by
        simp [rawEndPos_ofList, -ofList_append]
      rw [splitOnAux, if_pos ended, extract_of_valid]
      simp
  | cons c rest ih =>
      have read := get_of_valid (done ++ piece) (c :: rest)
      have next := next_of_valid (done ++ piece) c rest
      have cut := extract_of_valid done piece (c :: rest)
      rw [utf8Len_append] at read next
      have inside : ¬ Pos.Raw.atEnd (ofList (done ++ piece ++ c :: rest))
          ⟨utf8Len done + utf8Len piece⟩ = true := by
        have wide := Char.utf8Size_pos c
        simp [rawEndPos_ofList, -ofList_append]
        omega
      -- The separator is one character, which is matched as a whole or not at all.
      have sepFirst : Pos.Raw.get "," 0 = ',' := by decide
      have sepLast : Pos.Raw.atEnd "," (Pos.Raw.next "," 0) = true := by decide
      rw [splitOnAux, if_neg inside, read, sepFirst, next]
      by_cases comma : c = ','
      · subst comma
        have back : Pos.Raw.unoffsetBy ⟨utf8Len done + utf8Len piece + ','.utf8Size⟩
            (Pos.Raw.next "," 0) = ⟨utf8Len done + utf8Len piece⟩ := by
          have one : Pos.Raw.next "," 0 = ⟨','.utf8Size⟩ := by decide
          rw [one, Pos.Raw.unoffsetBy, Nat.add_sub_cancel]
        have further := ih (done ++ piece ++ [',']) [] (ofList piece :: pieces)
        simp only [List.headD_cons, beq_self_eq_true, ↓reduceIte, sepLast, back, cut]
        simpa [List.splitOnPPrepend_cons_eq_if, Nat.add_assoc, -ofList_append] using further
      · have stay : Pos.Raw.unoffsetBy ⟨utf8Len done + utf8Len piece⟩ 0 =
            ⟨utf8Len done + utf8Len piece⟩ := rfl
        have further := ih done (piece ++ [c]) pieces
        simp only [List.headD_cons, beq_iff_eq, comma, ↓reduceIte, stay, next]
        simpa [List.splitOnPPrepend_cons_eq_if, comma, Nat.add_assoc, -ofList_append] using further

theorem splitOn_comma (text : String) :
    text.splitOn "," = (text.toList.splitOn ',').map String.ofList := by
  have whole := splitOnAux_comma [] [] text.toList []
  simpa [String.splitOn, List.splitOn_eq_splitOnP] using whole

theorem comma_not_mem_of_mem_splitOn {text piece : List Char}
    (member : piece ∈ text.splitOn ',') : ',' ∉ piece := by
  induction text generalizing piece with
  | nil =>
      obtain rfl : piece = [] := by simpa using member
      exact List.not_mem_nil
  | cons c rest ih =>
      rw [List.splitOn_cons_eq_if_modifyHead] at member
      split at member
      · rcases List.mem_cons.mp member with rfl | later
        · exact List.not_mem_nil
        · exact ih later
      · rename_i other
        obtain ⟨first, pieces, split⟩ := List.exists_cons_of_ne_nil (List.splitOn_ne_nil ',' rest)
        rw [split, List.modifyHead_cons] at member
        rw [split] at ih
        rcases List.mem_cons.mp member with rfl | later
        · rw [List.mem_cons, not_or]
          exact ⟨fun same => other (beq_iff_eq.mpr same.symm), ih List.mem_cons_self⟩
        · exact ih (List.mem_cons_of_mem first later)

/-- What is joined by commas consists of the pieces and the commas. -/
theorem mem_intercalate_comma {pieces : List (List Char)} {c : Char} (other : c ≠ ',') :
    c ∈ [','].intercalate pieces ↔ ∃ piece ∈ pieces, c ∈ piece := by
  induction pieces with
  | nil => simp
  | cons first rest ih =>
      cases rest with
      | nil => simp
      | cons second rest =>
          rw [List.intercalate_cons_cons, List.mem_append, List.mem_append, ih, List.mem_singleton]
          simp [other]

/-! ## The names of a loop -/

/-- The texts between the commas of a text, without the blanks around them; blank ones are left
out. -/
def namesAmong (pieces : List (List Char)) : List String :=
  (pieces.map fun piece => strip (String.ofList piece)).filter fun name => !name.isEmpty

/-- The names that the text of a loop gives to its variables. -/
inductive ForLoopConfig.Names : ForLoopConfig → List String → Prop where
  /-- A blank text gives the default name. -/
  | unnamed
      {config : ForLoopConfig}
      (blank : isBlankText config.variableName = true) :
      Names config ["i"]
  /-- A loop that counts has its text as the name. -/
  | counted
      {config : ForLoopConfig}
      (named : isBlankText config.variableName = false)
      (counting : config.mode = .counting) :
      Names config [strip config.variableName]
  /-- A loop over an iterator has a name for every text between commas that is not blank. -/
  | listed
      {config : ForLoopConfig}
      {pieces : List (List Char)}
      (named : isBlankText config.variableName = false)
      (generic : config.mode = .generic)
      (joined : [','].intercalate pieces = (strip config.variableName).toList)
      (apart : ∀ piece ∈ pieces, ',' ∉ piece) :
      Names config (namesAmong pieces)

/-- Commas with blanks around them, and at least one. -/
def OnlyCommas (text : String) : Prop :=
  ',' ∈ text.toList ∧ ∀ c ∈ text.toList, c = ',' ∨ isBlank c = true

instance (text : String) : Decidable (OnlyCommas text) :=
  inferInstanceAs (Decidable (_ ∧ _))

namespace ForLoopConfig

variable {config : ForLoopConfig} {names : List String}

theorem loopVariables_of_blank (blank : isBlankText config.variableName = true) :
    config.loopVariables = ["i"] := by
  rw [← isEmpty_strip] at blank
  have alone : (defaultVariable.splitOn ",").map strip = ["i"] := by
    rw [splitOn_comma]
    decide +kernel
  rw [loopVariables, if_pos blank]
  cases config.mode with
  | counting => rfl
  | generic => simp [alone]

theorem loopVariables_of_counting
    (named : isBlankText config.variableName = false)
    (counting : config.mode = .counting) :
    config.loopVariables = [strip config.variableName] := by
  rw [← isEmpty_strip] at named
  simp [loopVariables, counting, named]

theorem loopVariables_of_generic
    (named : isBlankText config.variableName = false)
    (generic : config.mode = .generic) :
    config.loopVariables = namesAmong ((strip config.variableName).toList.splitOn ',') := by
  rw [← isEmpty_strip] at named
  simp [loopVariables, generic, named, splitOn_comma, namesAmong, Function.comp_def]

/-- The names of a loop are those of the variables that it has. -/
theorem names_iff : config.Names names ↔ names = config.loopVariables := by
  constructor
  · rintro (blank | ⟨named, counting⟩ | ⟨named, generic, joined, apart⟩)
    · exact (loopVariables_of_blank blank).symm
    · exact (loopVariables_of_counting named counting).symm
    · rw [loopVariables_of_generic named generic, ← joined, List.splitOn_intercalate ',' apart]
      rintro rfl
      have none : strip config.variableName = "" := String.toList_eq_nil_iff.mp joined.symm
      rw [← isEmpty_strip, none] at named
      cases named
  · rintro rfl
    cases named : isBlankText config.variableName with
    | true => exact loopVariables_of_blank named ▸ .unnamed named
    | false =>
        cases mode : config.mode with
        | counting => exact loopVariables_of_counting named mode ▸ .counted named mode
        | generic =>
            rw [loopVariables_of_generic named mode]
            exact .listed named mode (List.intercalate_splitOn ',') fun _ member =>
              comma_not_mem_of_mem_splitOn member

theorem namesAmong_eq_nil_iff {pieces : List (List Char)} :
    namesAmong pieces = [] ↔ ∀ piece ∈ pieces, ∀ c ∈ piece, isBlank c = true := by
  rw [namesAmong, List.filter_eq_nil_iff, List.forall_mem_map]
  refine forall₂_congr fun piece _ => ?_
  rw [isEmpty_strip, isBlankText, String.toList_ofList]
  simp

/-- Only commas name no variable. -/
theorem Names.eq_nil_iff (given : config.Names names) :
    names = [] ↔ config.mode = .generic ∧ OnlyCommas config.variableName := by
  cases given with
  | unnamed blank =>
      refine iff_of_false (List.cons_ne_nil _ _) ?_
      rintro ⟨-, comma, -⟩
      exact absurd (List.all_eq_true.mp blank ',' comma) (by decide)
  | counted _ counting =>
      refine iff_of_false (List.cons_ne_nil _ _) ?_
      rintro ⟨generic, -⟩
      rw [counting] at generic
      cases generic
  | @listed pieces named generic joined apart =>
      rw [namesAmong_eq_nil_iff]
      -- A character that is neither a blank nor a comma is left of the text, and so in a piece.
      have inPiece : ∀ c ∈ config.variableName.toList, isBlank c = false → c ≠ ',' →
          ∃ piece ∈ pieces, c ∈ piece := by
        intro c member visible other
        rw [← mem_intercalate_comma other, joined, strip, String.toList_ofList]
        exact mem_trimBy_of_not visible member
      constructor
      · intro blank
        have commas : ∀ c ∈ config.variableName.toList, c = ',' ∨ isBlank c = true := by
          intro c member
          by_contra neither
          obtain ⟨other, visible⟩ := not_or.mp neither
          obtain ⟨piece, inside, here⟩ := inPiece c member (by simpa using visible) other
          exact visible (blank piece inside c here)
        refine ⟨generic, ?_, commas⟩
        obtain ⟨c, member, visible⟩ := List.all_eq_false.mp named
        exact (commas c member).resolve_right visible ▸ member
      · rintro ⟨-, -, commas⟩ piece inside c here
        have other : c ≠ ',' := fun same => apart piece inside (same ▸ here)
        have left : c ∈ (strip config.variableName).toList :=
          joined ▸ (mem_intercalate_comma other).mpr ⟨piece, inside, here⟩
        rw [strip, String.toList_ofList] at left
        exact (commas c (mem_of_mem_trimBy left)).resolve_left other

end ForLoopConfig

/-! ## Loops that are accepted -/

theorem nameDiagnostics_eq_nil_iff (name : String) :
    nameDiagnostics name = [] ↔ isDeclarableName name = true := by
  unfold nameDiagnostics isDeclarableName
  cases isReserved name <;> cases isIdentifier name <;> simp

theorem isError_of_mem_nameDiagnostics
    {name : String}
    {diagnostic : Diagnostic}
    (member : diagnostic ∈ nameDiagnostics name) :
    diagnostic.isError = true := by
  unfold nameDiagnostics at member
  split at member
  · rw [List.mem_singleton.mp member]
    rfl
  · split at member
    · rw [List.mem_singleton.mp member]
      rfl
    · cases member

/-- A node that is not invalid has its configuration read, and nothing about it is an error. -/
theorem NodeKind.exists_read_of_accepted
    {kind : NodeKind}
    {stored : Json}
    {context : SocketContext}
    (accepted : (kind.resolve stored context).status ≠ .invalid) :
    ∃ config, kind.read stored = .ok config ∧
      ∀ diagnostic ∈ (kind.shape.sockets config context).diagnostics,
        diagnostic.isError = false := by
  have sound : ∀ diagnostic ∈ (kind.resolve stored context).diagnostics,
      diagnostic.isError = false := by
    intro diagnostic member
    rw [(kind.status_resolve stored context).1, NodeStatus.summary] at accepted
    cases graded : diagnostic.isError with
    | false => rfl
    | true => exact absurd (if_pos (List.any_eq_true.mpr ⟨diagnostic, member, graded⟩)) accepted
  obtain ⟨readable, usable⟩ := List.forall_mem_append.mp sound
  cases read : kind.read stored with
  | error details =>
      have refused := readable (.error (.invalidConfiguration kind.id details))
        (by simp [configDiagnostics, configDetails?, read])
      cases refused
  | ok config =>
      rw [configOf_of_read read] at usable
      exact ⟨config, rfl, usable⟩

/-- What is wrong with a name of a loop is wrong with the loop. -/
theorem forLoopSockets_reports
    {config : ForLoopConfig}
    {context : SocketContext}
    {name : String}
    (looped : name ∈ config.loopVariables) :
    nameDiagnostics name ⊆ (forLoopSockets config context).diagnostics := by
  intro diagnostic member
  have among : diagnostic ∈ config.loopVariables.flatMap nameDiagnostics :=
    List.mem_flatMap.mpr ⟨name, looped, member⟩
  unfold forLoopSockets
  cases config.mode with
  | counting => exact among
  | generic => exact List.mem_append_left _ among

/-- A loop without errors has no name that cannot be declared. -/
theorem declarable_of_sound
    {config : ForLoopConfig}
    {context : SocketContext}
    (sound : ∀ diagnostic ∈ (forLoopSockets config context).diagnostics,
      diagnostic.isError = false)
    {name : String}
    (looped : name ∈ config.loopVariables) :
    isDeclarableName name = true := by
  rw [← nameDiagnostics_eq_nil_iff, List.eq_nil_iff_forall_not_mem]
  intro diagnostic member
  have isError := isError_of_mem_nameDiagnostics member
  rw [sound diagnostic (forLoopSockets_reports looped member)] at isError
  cases isError

/-- A variable of a for loop: a number in a loop that counts. -/
def ForLoopConfig.variableOf (config : ForLoopConfig) (name : String) : Symbol :=
  let type :=
    match config.mode with
    | .counting => LuauType.number
    | .generic => LuauType.any
  { Symbol.ofVariable name type with description := some "Loop variable" }

/-- For loops, as they are offered. -/
def forLoopKind : NodeKind :=
  Catalogue.declaring
    (Catalogue.owning
      (.plain "Control Flow" "ForLoop" "For Loop"
        "Numeric (counting) or generic (iterator) for loop." .forLoop)
      .loop ["loop"])
    .vars

theorem get?_forLoop : Palette.standard.get? "ForLoop" = some forLoopKind := by rfl

theorem scopeSymbols_forLoop
    {stored : Json}
    {config : ForLoopConfig}
    (read : forLoopKind.read stored = .ok config) :
    forLoopKind.scopeSymbols stored =
      (config.loopVariables.filter isDeclarableName).map config.variableOf := by
  rw [NodeKind.scopeSymbols, NodeKind.configOf_of_read read]
  rfl

theorem status_forLoop_of_quiet
    {stored : Json}
    {config : ForLoopConfig}
    {context : SocketContext}
    (read : forLoopKind.read stored = .ok config)
    (quiet : (forLoopSockets config context).diagnostics = []) :
    (Palette.standard.sockets "ForLoop" stored context).status = .ok := by
  have none : (forLoopKind.resolve stored context).diagnostics = [] := by
    rw [NodeKind.resolve, NodeKind.configDiagnostics, NodeKind.configDetails?, read,
      NodeKind.configOf_of_read read]
    exact quiet
  rw [Palette.sockets, get?_forLoop]
  show (forLoopKind.resolve stored context).status = _
  rw [(forLoopKind.status_resolve stored context).1, none]
  rfl

/-- A for loop that is not invalid declares a variable for each of its names, in their order.  It
has at least one, unless it runs over an iterator and its text is commas and blanks alone. -/
theorem forLoop_declares_named
    (stored : Json)
    (context : SocketContext)
    (accepted : (Palette.standard.sockets "ForLoop" stored context).status ≠ .invalid) :
    ∃ config names, forLoopKind.read stored = .ok config ∧ config.Names names ∧
      forLoopKind.scopeSymbols stored = names.map config.variableOf ∧
      (forLoopKind.scopeSymbols stored = [] ↔
        config.mode = .generic ∧ OnlyCommas config.variableName) := by
  rw [Palette.sockets, get?_forLoop] at accepted
  obtain ⟨config, read, sound⟩ := NodeKind.exists_read_of_accepted accepted
  have given : ForLoopConfig.Names config config.loopVariables := ForLoopConfig.names_iff.mpr rfl
  have kept : config.loopVariables.filter isDeclarableName = config.loopVariables :=
    List.filter_eq_self.mpr fun _ looped => declarable_of_sound sound looped
  have declared := scopeSymbols_forLoop read
  rw [kept] at declared
  refine ⟨config, config.loopVariables, read, given, declared, ?_⟩
  rw [declared, List.map_eq_nil_iff]
  exact given.eq_nil_iff

/-- A loop over an iterator with a text for its variables, as it is stored. -/
def loopOver (text : String) : Json :=
  .object
    [("mode", .text "generic"), ("variableName", .text text), ("iterableExpression", .text "items")]

/-- Its configuration. -/
def configOver (text : String) : ForLoopConfig :=
  ⟨.generic, text, none, none, none, some "items", none⟩

theorem read_loopOver (text : String) :
    forLoopKind.read (loopOver text) = .ok (configOver text) :=
  rfl

theorem quiet_loopOver
    {text : String}
    {names : List String}
    (given : (configOver text).Names names)
    (declarable : names.flatMap nameDiagnostics = []) :
    (forLoopSockets (configOver text) .empty).diagnostics = [] := by
  have sound : expressionDiagnostics (some "items") .empty "iterable" = [] := by decide +kernel
  show (configOver text).loopVariables.flatMap nameDiagnostics ++ _ = []
  rw [← ForLoopConfig.names_iff.mp given, declarable, List.nil_append]
  exact sound

theorem names_pair : (configOver " key, value").Names ["key", "value"] :=
  @ForLoopConfig.Names.listed _ ["key".toList, " value".toList] (by decide) rfl rfl (by decide)

theorem names_comma : (configOver ",").Names [] :=
  @ForLoopConfig.Names.listed _ [[], []] (by decide) rfl rfl (by decide)

theorem forLoop_declares_pair :
    (Palette.standard.sockets "ForLoop" (loopOver " key, value") .empty).status ≠ .invalid ∧
      ∃ config names, forLoopKind.read (loopOver " key, value") = .ok config ∧
        config.Names names ∧ names = ["key", "value"] ∧
          forLoopKind.scopeSymbols (loopOver " key, value") = names.map config.variableOf ∧
            forLoopKind.scopeSymbols (loopOver " key, value") ≠ [] := by
  have accepted : (Palette.standard.sockets "ForLoop" (loopOver " key, value") .empty).status ≠
      .invalid := by
    rw [status_forLoop_of_quiet (read_loopOver _) (quiet_loopOver names_pair (by decide))]
    exact nofun
  obtain ⟨config, names, read, given, declared, empty⟩ := forLoop_declares_named _ _ accepted
  have same : configOver " key, value" = config := Except.ok.inj ((read_loopOver _).symm.trans read)
  subst same
  refine ⟨accepted, _, names, read, given, ?_, declared, ?_⟩
  · rw [ForLoopConfig.names_iff.mp given, ForLoopConfig.names_iff.mp names_pair]
  · rw [Ne, empty]
    decide

/-- A loop over an iterator whose text is a comma is fine, and declares nothing. -/
theorem forLoop_comma_declares_nothing :
    (Palette.standard.sockets "ForLoop" (loopOver ",") .empty).status = .ok ∧
      forLoopKind.scopeSymbols (loopOver ",") = [] := by
  refine ⟨status_forLoop_of_quiet (read_loopOver _) (quiet_loopOver names_comma rfl), ?_⟩
  rw [scopeSymbols_forLoop (read_loopOver _), ← ForLoopConfig.names_iff.mp names_comma]
  rfl

end LuauNodes
