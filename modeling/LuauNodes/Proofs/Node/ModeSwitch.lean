import LuauNodes.Proofs.Node.Display
import Mathlib.Data.List.Forall2

/-!
# Switching modes

The mode of a node says which of its inputs are wired and which are replaced by
an expression.  Its outputs have no part in this: as long as nothing but modes
and texts of expressions is changed, also in the conditions of an if node, the
outputs stay, and with them the edges that leave the node.  A node that takes an
expression in place of its operands keeps the inputs that carry execution order
and no others, whether or not the expression can be read.
-/

namespace LuauNodes

open LuauNodes.Record

/-! ## Stored data before and after a switch -/

/-- The names of modes. -/
def modeNames : List String := ["mode", "sortMode", "sort_mode"]

/-- The names of texts that are expressions: in the place of an input, for what a loop runs over and
for how elements are compared. -/
def expressionNames : List String :=
  ["expression", "iterableExpression", "iterable_expression", "startValue", "start_value",
   "endValue", "end_value", "stepValue", "step_value", "compareFunction", "compare_function"]

/-- The names of what is changed by a switch. -/
def switchNames : List String := modeNames ++ expressionNames

/-- The names of the first condition of an if node. -/
def mainNames : List String := ["mainCondition", "main_condition"]

/-- The names of its later conditions. -/
def laterNames : List String := ["elseIfBranches", "else_if_branches"]

/-- Conditions that differ only in their modes and expressions. -/
inductive ConditionsAlike : Json → Json → Prop where
  | same (condition : Json) : ConditionsAlike condition condition
  | switched
      {fields newFields : Fields}
      (kept : ∀ name ∉ switchNames, Json.entry? name fields = Json.entry? name newFields) :
      ConditionsAlike (.object fields) (.object newFields)

/-- What is under a name differs only in the modes and expressions of conditions; where there is no
first condition, nothing is set on it. -/
inductive EntriesAlike (name : String) : Option Json → Option Json → Prop where
  | same (entry : Option Json) : EntriesAlike name entry entry
  | main
      {before after : Option Json}
      (named : name ∈ mainNames)
      (alike : ConditionsAlike (before.getD (.object [])) (after.getD (.object []))) :
      EntriesAlike name before after
  | later
      {before after : List Json}
      (named : name ∈ laterNames)
      (alike : List.Forall₂ ConditionsAlike before after) :
      EntriesAlike name (some (.list before)) (some (.list after))

/-- Fields that differ only in modes and expressions. -/
def FieldsAlike (fields newFields : Fields) : Prop :=
  ∀ name ∉ switchNames,
    EntriesAlike name (Json.entry? name fields) (Json.entry? name newFields)

/-- Stored data that differs only in modes and expressions. -/
def Switched (before after : Json) : Prop :=
  ∃ fields newFields, storedFields before = .ok fields ∧ storedFields after = .ok newFields ∧
    FieldsAlike fields newFields

/-- The stored data is a configuration of the kind. -/
def NodeKind.Accepts (kind : NodeKind) (stored : Json) : Prop :=
  ∃ config, kind.read stored = .ok config

/-- A configuration is read from the fields that the stored data holds. -/
theorem NodeKind.read_eq_ok_iff
    {kind : NodeKind}
    {stored : Json}
    {config : kind.shape.Config} :
    kind.read stored = .ok config ↔
      ∃ fields, storedFields stored = .ok fields ∧ kind.shape.read fields = .ok config := by
  unfold read
  cases storedFields stored with
  | error fault => simp
  | ok fields => cases readable : kind.shape.read fields <;> simp [readable]

/-! ## What a switch leaves -/

/-- Writing a mode or an expression leaves the other entries. -/
theorem entry?_putEntry_of_switch
    {written name : String}
    (switch : written ∈ switchNames)
    (kept : name ∉ switchNames)
    (value : Json)
    (fields : Fields) :
    Json.entry? name (Json.putEntry written value fields) = Json.entry? name fields := by
  have apart : written ≠ name := fun same => kept (same ▸ switch)
  rw [Json.entry?_putEntry, if_neg apart]

/-- The members of a list. -/
def memberCount : Json → Nat
  | .list items => items.length
  | _ => 0

/-- The members of the list under a field. -/
def fieldCount (field : FieldName) (fields : Fields) : Option Nat :=
  ((Json.entry? field.preferred fields).map memberCount).or
    ((Json.entry? field.plain fields).map memberCount)

namespace EntriesAlike

variable {name : String} {before after : Option Json}

theorem eq
    (alike : EntriesAlike name before after)
    (notMain : name ∉ mainNames)
    (notLater : name ∉ laterNames) :
    before = after := by
  cases alike with
  | same => rfl
  | main named => exact absurd named notMain
  | later named => exact absurd named notLater

theorem map_memberCount
    (alike : EntriesAlike name before after)
    (notMain : name ∉ mainNames) :
    before.map memberCount = after.map memberCount := by
  cases alike with
  | same => rfl
  | main named => exact absurd named notMain
  | later _ alike => exact congrArg some alike.length_eq

end EntriesAlike

namespace FieldsAlike

variable {fields newFields : Fields} {α : Type}

theorem nil : FieldsAlike [] [] := fun _ _ => .same none

theorem cons
    {name : String}
    {value newValue : Json}
    (first : EntriesAlike name (some value) (some newValue))
    (rest : FieldsAlike fields newFields) :
    FieldsAlike ((name, value) :: fields) ((name, newValue) :: newFields) := by
  intro wanted kept
  by_cases here : name = wanted
  · subst here
    simpa [Json.entry?] using first
  · simpa [Json.entry?, here] using rest wanted kept

/-- A field that is no mode, expression or condition is read the same. -/
theorem optional_eq
    (alike : FieldsAlike fields newFields)
    {field : FieldName}
    (kept : ∀ name ∈ [field.preferred, field.plain],
      name ∉ switchNames ∧ name ∉ mainNames ∧ name ∉ laterNames)
    (default : α)
    (read : Reader α) :
    optional field default read fields = optional field default read newFields := by
  have same : ∀ name ∈ [field.preferred, field.plain],
      Json.entry? name fields = Json.entry? name newFields := by
    intro name among
    obtain ⟨noSwitch, notMain, notLater⟩ := kept name among
    exact (alike name noSwitch).eq notMain notLater
  rw [Record.optional, Record.optional, FieldName.find?, FieldName.find?,
    same field.preferred (by simp), same field.plain (by simp)]

/-- A configuration with a single field, which is none of these, stays. -/
theorem eq_of_map_optional
    {β : Type}
    (alike : FieldsAlike fields newFields)
    {field : FieldName}
    {make : α → β}
    {default : α}
    {read : Reader α}
    {config newConfig : β}
    (kept : ∀ name ∈ [field.preferred, field.plain],
      name ∉ switchNames ∧ name ∉ mainNames ∧ name ∉ laterNames)
    (readable : make <$> optional field default read fields = .ok config)
    (newReadable : make <$> optional field default read newFields = .ok newConfig) :
    config = newConfig := by
  rw [alike.optional_eq kept] at readable
  exact Checked.ok.inj (readable.symm.trans newReadable)

/-- The number of later conditions stays. -/
theorem fieldCount_eq
    (alike : FieldsAlike fields newFields)
    {field : FieldName}
    (kept : ∀ name ∈ [field.preferred, field.plain], name ∉ switchNames ∧ name ∉ mainNames) :
    fieldCount field fields = fieldCount field newFields := by
  have same : ∀ name ∈ [field.preferred, field.plain],
      (Json.entry? name fields).map memberCount = (Json.entry? name newFields).map memberCount := by
    intro name among
    obtain ⟨noSwitch, notMain⟩ := kept name among
    exact (alike name noSwitch).map_memberCount notMain
  rw [fieldCount, fieldCount, same field.preferred (by simp), same field.plain (by simp)]

end FieldsAlike

theorem length_of_optional_list
    {α : Type}
    {field : FieldName}
    {read : Reader α}
    {fields : Fields}
    {items : List α}
    (found : optional field [] (list read) fields = .ok items) :
    items.length = (fieldCount field fields).getD 0 := by
  have counted : ∀ spelling value, Checked.within spelling (list read value) = .ok items →
      items.length = memberCount value := by
    intro spelling value readable
    rw [Checked.within_eq_ok_iff] at readable
    cases value with
    | list members => exact Checked.length_of_each readable
    | _ => cases readable
  rw [Record.optional, FieldName.find?] at found
  rw [fieldCount]
  cases preferred : Json.entry? field.preferred fields with
  | some value =>
      rw [preferred] at found
      exact counted _ value found
  | none =>
      rw [preferred] at found
      cases plain : Json.entry? field.plain fields with
      | some value =>
          rw [plain] at found
          exact counted _ value found
      | none =>
          rw [plain] at found
          cases found
          rfl

/-! ## Outputs -/

namespace Shape

/-- The configurations agree on what decides the outputs. -/
def KeepsOutputs : (shape : Shape) → shape.Config → shape.Config → Prop
  | ifElse, config, newConfig =>
    config.elseIfBranches.length = newConfig.elseIfBranches.length ∧
      config.showElse = newConfig.showElse
  | variableGet, config, newConfig => config = newConfig
  | functionCall, config, newConfig => config = newConfig
  | tableForeach, config, newConfig => config = newConfig
  | _, _, _ => True

theorem outputs_of_keepsOutputs
    {shape : Shape}
    {config newConfig : shape.Config}
    (kept : shape.KeepsOutputs config newConfig)
    (context : SocketContext) :
    (shape.sockets config context).outputs = (shape.sockets newConfig context).outputs := by
  -- Where two modes differ, they list the same outputs; elsewhere no mode is looked at.
  cases shape with
  | ifElse =>
      obtain ⟨branches, showElse⟩ := kept
      simp only [sockets, ifElseSockets, NodeSockets.reporting, ifElseOutputs, branches, showElse]
  | variableGet | functionCall | tableForeach =>
      obtain rfl := kept
      rfl
  | operator | whileLoop | repeatUntil | returnValue | forLoop =>
      simp only [sockets, operatorSockets, statementSockets, forLoopSockets]
      cases config.mode <;> cases newConfig.mode <;> rfl
  | _ =>
      simp only [sockets, NodeSockets.sound, NodeSockets.reporting, valueSockets,
        variableSetSockets, functionDefinitionSockets]

/-- An if node has as many later conditions as are listed, and shows its last branch if asked to,
whatever its conditions are. -/
theorem read_ifElse_eq_ok
    {fields : Fields}
    {config : IfElseConfig}
    (readable : ifElse.read fields = .ok config) :
    config.elseIfBranches.length = (fieldCount (.camel "else_if_branches") fields).getD 0 ∧
      Record.optional (.camel "show_else") true Record.boolean fields = .ok config.showElse := by
  obtain ⟨_, showElse, first, shown, rfl⟩ := (Checked.seq_eq_ok_iff _ _ _).mp readable
  obtain ⟨_, branches, second, listed, rfl⟩ := (Checked.seq_eq_ok_iff _ _ _).mp first
  obtain ⟨main, -, rfl⟩ := (Checked.map_eq_ok_iff _ _ _).mp second
  exact ⟨length_of_optional_list listed, shown⟩

theorem keepsOutputs_of_fieldsAlike
    {shape : Shape}
    {fields newFields : Fields}
    {config newConfig : shape.Config}
    (alike : FieldsAlike fields newFields)
    (readable : shape.read fields = .ok config)
    (newReadable : shape.read newFields = .ok newConfig) :
    shape.KeepsOutputs config newConfig := by
  cases shape with
  | ifElse =>
      obtain ⟨branches, shown⟩ := read_ifElse_eq_ok readable
      obtain ⟨newBranches, newShown⟩ := read_ifElse_eq_ok newReadable
      rw [alike.optional_eq (by decide +kernel)] at shown
      refine ⟨?_, Checked.ok.inj (shown.symm.trans newShown)⟩
      rw [branches, newBranches, alike.fieldCount_eq (by decide +kernel)]
  | variableGet | functionCall | tableForeach =>
      exact alike.eq_of_map_optional (by decide +kernel) readable newReadable
  | _ => trivial

/-! ## Inputs -/

/-- The shape of a node whose typed inputs give way to an expression. -/
def takesExpression : Shape → Bool
  | operator operand _ _ => !operand.isFlow
  | whileLoop | repeatUntil | returnValue => true
  | _ => false

/-- The mode of a node that takes an expression. -/
def inputMode? : (shape : Shape) → shape.Config → Option InputMode
  | operator _ _ _, config => some config.mode
  | whileLoop, config => some config.mode
  | repeatUntil, config => some config.mode
  | returnValue, config => some config.mode
  | _, _ => none

/-- In place of its typed inputs a node takes an expression, whatever its text. -/
theorem inputs_of_expression
    {shape : Shape}
    {config newConfig : shape.Config}
    (takes : shape.takesExpression = true)
    (linear : shape.inputMode? config = some .linear)
    (expression : shape.inputMode? newConfig = some .expression)
    (context : SocketContext) :
    (shape.sockets newConfig context).inputs =
      (shape.sockets config context).inputs.filter fun socket => socket.type.isFlow := by
  cases shape with
  | operator operand result operands =>
      have wired : config.mode = .linear := Option.some.inj linear
      have typed : newConfig.mode = .expression := Option.some.inj expression
      simp only [sockets, operatorSockets, wired, typed, NodeSockets.sound, NodeSockets.reporting]
      refine (List.filter_eq_nil_iff.mpr fun socket member => ?_).symm
      have data : operand.isFlow = false := by simpa [takesExpression] using takes
      rcases List.mem_pair.mp (List.mem_of_mem_take member) with rfl | rfl <;>
        simp [Socket.labelled, data]
  | whileLoop | repeatUntil | returnValue =>
      have wired : config.mode = .linear := Option.some.inj linear
      have typed : newConfig.mode = .expression := Option.some.inj expression
      simp only [sockets, statementSockets, wired, typed, NodeSockets.sound, NodeSockets.reporting]
      rfl
  | _ => cases takes

end Shape

/-- A mode is read from its written form and from nothing else. -/
theorem InputMode.read_eq_ok_iff (value : Json) (mode : InputMode) :
    InputMode.read value = .ok mode ↔ value = .text mode.tag := by
  constructor
  · intro readable
    cases value with
    | text written =>
        simp only [InputMode.read, oneOf] at readable
        split at readable
        · rename_i found
          cases readable
          exact congrArg Json.text (eq_of_beq (List.find?_some found :)).symm
        · cases readable
    | _ => cases readable
  · rintro rfl
    cases mode <;> rfl

/-- A node is in expression mode if its fields say so. -/
theorem inputMode_eq_expression_iff
    {fields : Fields}
    {mode : InputMode}
    (readable : Record.optional (.camel "mode") .linear InputMode.read fields = .ok mode) :
    mode = .expression ↔ Json.entry? "mode" fields = some (.text "expression") := by
  have spelled : FieldName.camel "mode" = .same "mode" := by rfl
  rw [spelled] at readable
  cases entry : Json.entry? "mode" fields with
  | none =>
      rw [optional_same_of_absent entry] at readable
      cases readable
      simp
  | some value =>
      rw [optional_same_of_present entry, Checked.within_eq_ok_iff,
        InputMode.read_eq_ok_iff] at readable
      subst readable
      cases mode <;> simp [InputMode.tag]

namespace Shape

/-- The mode that fields name. -/
theorem inputMode?_of_read
    {shape : Shape}
    {fields : Fields}
    {config : shape.Config}
    (takes : shape.takesExpression = true)
    (readable : shape.read fields = .ok config) :
    ∃ mode, shape.inputMode? config = some mode ∧
      (mode = .expression ↔ Json.entry? "mode" fields = some (.text "expression")) := by
  cases shape with
  | operator =>
      obtain ⟨_, _, first, -, rfl⟩ := (Checked.seq_eq_ok_iff _ _ _).mp readable
      obtain ⟨mode, moded, rfl⟩ := (Checked.map_eq_ok_iff _ _ _).mp first
      exact ⟨mode, rfl, inputMode_eq_expression_iff moded⟩
  | whileLoop | repeatUntil | returnValue =>
      obtain ⟨_, _, first, -, rfl⟩ := (Checked.seq_eq_ok_iff _ _ _).mp readable
      obtain ⟨_, _, second, -, rfl⟩ := (Checked.seq_eq_ok_iff _ _ _).mp first
      obtain ⟨mode, moded, rfl⟩ := (Checked.map_eq_ok_iff _ _ _).mp second
      exact ⟨mode, rfl, inputMode_eq_expression_iff moded⟩
  | _ => cases takes

end Shape

/-! ## Nodes -/

/-- The kinds whose typed inputs give way to an expression. -/
def expressionKinds : List String :=
  (Catalogue.arithmetic ++ Catalogue.comparison ++ Catalogue.logical).map NodeKind.id ++
    ["WhileLoop", "RepeatUntilLoop", "ReturnStatement"]

/-- The stored data asks for expression mode. -/
def InExpressionMode (stored : Json) : Prop :=
  ∃ fields, storedFields stored = .ok fields ∧
    Json.entry? "mode" fields = some (.text "expression")

/-- An expression, as it is stored. -/
def storedExpression (text : String) : Json :=
  .object [("mode", .text "expression"), ("expression", .text text)]

theorem inExpressionMode_storedExpression (text : String) :
    InExpressionMode (storedExpression text) :=
  ⟨_, rfl, rfl⟩

namespace NodeKind

variable {kind : NodeKind}

theorem outputs_of_switched
    {before after : Json}
    (accepted : kind.Accepts before)
    (newAccepted : kind.Accepts after)
    (switched : Switched before after)
    (context : SocketContext) :
    (kind.resolve before context).outputs = (kind.resolve after context).outputs := by
  obtain ⟨config, read⟩ := accepted
  obtain ⟨newConfig, newRead⟩ := newAccepted
  obtain ⟨fields, given, readable⟩ := read_eq_ok_iff.mp read
  obtain ⟨newFields, newGiven, newReadable⟩ := read_eq_ok_iff.mp newRead
  obtain ⟨_, _, same, newSame, alike⟩ := switched
  -- The fields that were read are those that were compared.
  cases given.symm.trans same
  cases newGiven.symm.trans newSame
  have kept := Shape.keepsOutputs_of_fieldsAlike alike readable newReadable
  rw [resolve, resolve, configOf_of_read read, configOf_of_read newRead]
  exact Shape.outputs_of_keepsOutputs kept context

/-- Any text is accepted as an expression. -/
theorem accepts_storedExpression (takes : kind.shape.takesExpression = true) (text : String) :
    kind.Accepts (storedExpression text) := by
  have readable : ∃ config, kind.shape.read
      [("mode", .text "expression"), ("expression", .text text)] = .ok config := by
    generalize kind.shape = shape at takes ⊢
    cases shape with
    | operator | whileLoop | repeatUntil | returnValue => exact ⟨_, rfl⟩
    | _ => cases takes
  obtain ⟨config, readable⟩ := readable
  exact ⟨config, read_eq_ok_iff.mpr ⟨_, rfl, readable⟩⟩

theorem exists_inputMode?_of_read
    (takes : kind.shape.takesExpression = true)
    {stored : Json}
    {config : kind.shape.Config}
    (read : kind.read stored = .ok config) :
    ∃ mode, kind.shape.inputMode? config = some mode ∧
      (mode = .expression ↔ InExpressionMode stored) := by
  obtain ⟨fields, given, readable⟩ := read_eq_ok_iff.mp read
  obtain ⟨mode, moded, named⟩ := Shape.inputMode?_of_read takes readable
  refine ⟨mode, moded, named.trans ⟨fun entry => ⟨fields, given, entry⟩, ?_⟩⟩
  rintro ⟨_, same, entry⟩
  cases given.symm.trans same
  exact entry

theorem inputs_of_inExpressionMode
    (takes : kind.shape.takesExpression = true)
    {linear expression : Json}
    (accepted : kind.Accepts linear)
    (newAccepted : kind.Accepts expression)
    (wired : ¬InExpressionMode linear)
    (typed : InExpressionMode expression)
    (context : SocketContext) :
    (kind.resolve expression context).inputs =
      (kind.resolve linear context).inputs.filter fun socket => socket.type.isFlow := by
  obtain ⟨config, read⟩ := accepted
  obtain ⟨newConfig, newRead⟩ := newAccepted
  obtain ⟨mode, moded, named⟩ := exists_inputMode?_of_read takes read
  obtain ⟨newMode, newModed, newNamed⟩ := exists_inputMode?_of_read takes newRead
  obtain rfl : newMode = .expression := newNamed.mpr typed
  have isLinear : mode = .linear := by
    cases mode with
    | linear => rfl
    | expression => exact absurd (named.mp rfl) wired
  subst isLinear
  -- An input that shows the type of its feed still has its own, so the filter can come first.
  have shown : ((fun socket => socket.type.isFlow) ∘ refine context) =
      fun socket : Socket => socket.type.isFlow :=
    funext fun socket => congrArg LuauType.isFlow (type_refine context socket)
  rw [resolve, resolve, configOf_of_read read, configOf_of_read newRead]
  dsimp only
  rw [List.filter_map, shown, Shape.inputs_of_expression takes moded newModed context]

end NodeKind

theorem exists_kind_of_mem_expressionKinds
    {kindId : String}
    (listed : kindId ∈ expressionKinds) :
    ∃ kind, Palette.standard.get? kindId = some kind ∧ kind.shape.takesExpression = true := by
  have all : ∀ id ∈ expressionKinds,
      (Palette.standard.get? id).any (fun kind => kind.shape.takesExpression) = true := by
    decide +kernel
  exact (Option.any_eq_true _ _).mp (all kindId listed)

/-- A switch of modes leaves the outputs of every node.  A node that takes an expression keeps the
inputs of execution order that it has without one, and no others. -/
theorem switching_keeps_outputs :
    (∀ kindId kind, Palette.standard.get? kindId = some kind →
      ∀ before after, kind.Accepts before → kind.Accepts after → Switched before after →
        ∀ context, (Palette.standard.sockets kindId before context).outputs =
          (Palette.standard.sockets kindId after context).outputs) ∧
    ∀ kindId ∈ expressionKinds, ∃ kind, Palette.standard.get? kindId = some kind ∧
      (∀ text, kind.Accepts (storedExpression text)) ∧
      ∀ linear expression, kind.Accepts linear → kind.Accepts expression →
        ¬InExpressionMode linear → InExpressionMode expression →
          ∀ context, (Palette.standard.sockets kindId expression context).inputs =
            (Palette.standard.sockets kindId linear context).inputs.filter fun socket =>
              socket.type.isFlow := by
  constructor
  · intro kindId kind available before after accepted newAccepted switched context
    simp only [Palette.sockets, available]
    exact NodeKind.outputs_of_switched accepted newAccepted switched context
  · intro kindId listed
    obtain ⟨kind, available, takes⟩ := exists_kind_of_mem_expressionKinds listed
    refine ⟨kind, available, NodeKind.accepts_storedExpression takes, ?_⟩
    intro linear expression accepted newAccepted wired typed context
    simp only [Palette.sockets, available]
    exact NodeKind.inputs_of_inExpressionMode takes accepted newAccepted wired typed context

/-- An if node whose conditions are wired, as it is stored. -/
def wiredConditions : Json :=
  .object
    [("mainCondition", .object []),
     ("elseIfBranches", .list [.object [("id", .text "second")], .object []])]

/-- A condition with an expression that cannot be read. -/
def typedCondition (fields : Fields) : Json :=
  .object (Json.putEntry "mode" (.text "expression")
    (Json.putEntry "expression" (.text "health > (10") fields))

/-- The same if node with expressions for its first two conditions. -/
def typedConditions : Json :=
  .object
    [("mainCondition", typedCondition []),
     ("elseIfBranches", .list [typedCondition [("id", .text "second")], .object []])]

theorem switched_typedConditions : Switched wiredConditions typedConditions := by
  have typed : ∀ fields, ConditionsAlike (.object fields) (typedCondition fields) := by
    intro fields
    refine .switched fun name kept => ?_
    rw [entry?_putEntry_of_switch (by decide) kept, entry?_putEntry_of_switch (by decide) kept]
  refine ⟨_, _, rfl, rfl, .cons (.main (by decide) (typed _)) (.cons (.later (by decide) ?_) .nil)⟩
  exact .cons (typed _) (.cons (.same _) .nil)

theorem switching_keeps_outputs_malformed :
    (∃ kind, Palette.standard.get? "IfElse" = some kind ∧
      kind.Accepts wiredConditions ∧ kind.Accepts typedConditions ∧
        Switched wiredConditions typedConditions ∧
          (Palette.standard.sockets "IfElse" wiredConditions .empty).outputs =
            (Palette.standard.sockets "IfElse" typedConditions .empty).outputs) ∧
    ∃ kind, Palette.standard.get? "WhileLoop" = some kind ∧
      kind.Accepts (.object []) ∧ kind.Accepts (storedExpression "health > (10") ∧
        ¬InExpressionMode (.object []) ∧ InExpressionMode (storedExpression "health > (10") ∧
          (Palette.standard.sockets "WhileLoop" (storedExpression "health > (10") .empty).inputs =
            (Palette.standard.sockets "WhileLoop" (.object []) .empty).inputs.filter fun socket =>
              socket.type.isFlow := by
  have wired : ¬InExpressionMode (.object []) := by
    rintro ⟨fields, given, entry⟩
    cases given
    cases entry
  have typed := inExpressionMode_storedExpression "health > (10"
  constructor
  · exact ⟨_, rfl, ⟨_, rfl⟩, ⟨_, rfl⟩, switched_typedConditions,
      switching_keeps_outputs.1 "IfElse" _ rfl _ _ ⟨_, rfl⟩ ⟨_, rfl⟩ switched_typedConditions _⟩
  · obtain ⟨kind, available, readable, inputs⟩ :=
      switching_keeps_outputs.2 "WhileLoop" (by decide +kernel)
    have bare : kind.Accepts (.object []) := by
      cases available
      exact ⟨_, rfl⟩
    exact ⟨kind, available, bare, readable _, wired, typed,
      inputs _ _ bare (readable _) wired typed _⟩

end LuauNodes
