import LuauNodes.LuauType
import LuauNodes.Record.Reader

/-!
# Symbols

A named, typed declaration that a scope owns; without an owner it is global.
A function is a symbol with a signature.  Symbols are values: a change is a new
symbol under the same name.
-/

namespace LuauNodes

open LuauNodes.Record

/-- The kinds of scopes.  The global scope of a document is implicit and never stored. -/
inductive ScopeKind where
  | global
  | function
  | loop
  | block
  deriving DecidableEq, Inhabited

namespace ScopeKind

/-- Every kind of scope. -/
def all : List ScopeKind := [global, function, loop, block]

/-- The written form of a kind. -/
def tag : ScopeKind → String
  | global => "global"
  | function => "function"
  | loop => "loop"
  | block => "block"

/-- Reads a kind by its exact written form. -/
def read : Reader ScopeKind := oneOf all tag

end ScopeKind

/-- Reads a type by its exact tag. -/
def LuauType.read : Reader LuauType := oneOf LuauType.all LuauType.tag

/-- A parameter of a function. -/
structure Parameter where
  name : String
  type : LuauType
  deriving DecidableEq, Inhabited

/-- Reads a parameter. -/
def Parameter.read : Reader Parameter :=
  record "FunctionParameter" fun fields =>
    Parameter.mk
      <$> required (.same "name") text fields
      <*> optional (.same "type") LuauType.any LuauType.read fields

/-- What a function takes and returns, and the node that defines it. -/
structure Signature where
  parameters : List Parameter
  returnType : LuauType
  nodeId : Option String
  deriving DecidableEq

instance : Inhabited Signature := ⟨⟨[], .nil, none⟩⟩

/-- A declaration. -/
structure Symbol where
  name : String
  type : LuauType
  scopeId : Option String
  scopeKind : ScopeKind
  isConstant : Bool
  initialValue : Option String
  description : Option String
  signature : Option Signature
  deriving DecidableEq

namespace Symbol

/-- A global variable of a type. -/
def ofVariable (name : String) (type : LuauType) : Symbol :=
  ⟨name, type, none, .global, false, none, none, none⟩

/-- A global function with a signature. -/
def ofFunction (name : String) (signature : Signature) : Symbol :=
  { ofVariable name .function with signature := some signature }

/-- The symbol is a function. -/
def isFunction (symbol : Symbol) : Bool := symbol.signature.isSome

/-- The symbol has no owner, or its owner counts as global. -/
def isGlobal (symbol : Symbol) : Bool :=
  symbol.scopeId.isNone || symbol.scopeKind == .global

/-- A function with its parameters and return type, as it is shown to users. -/
def signatureText (symbol : Symbol) (signature : Signature) : String :=
  let parameters := signature.parameters.map fun parameter =>
    parameter.name ++ ": " ++ parameter.type.tag
  s!"{symbol.name}(" ++ String.intercalate ", " parameters ++ s!") -> {signature.returnType.tag}"

/-- Reads the fields of a signature over the values that absent ones have. -/
def readSignature (absent : Signature) (fields : Fields) : Checked Signature :=
  Signature.mk
    <$> optional (.same "parameters") absent.parameters (list Parameter.read) fields
    <*> optional (.same "return_type") absent.returnType LuauType.read fields
    <*> optional (.same "node_id") absent.nodeId (nullable text) fields

/-- Reads the fields of a symbol over the values that absent ones have; the name is read
already. -/
def readFields (name : Checked String) (absent : Symbol) (fields : Fields) : Checked Symbol :=
  Symbol.mk
    <$> name
    <*> optional (.same "type") absent.type LuauType.read fields
    <*> optional (.same "scope_id") absent.scopeId (nullable text) fields
    <*> optional (.same "scope_type") absent.scopeKind ScopeKind.read fields
    <*> optional (.same "is_constant") absent.isConstant boolean fields
    <*> optional (.same "initial_value") absent.initialValue (nullable text) fields
    <*> optional (.same "description") absent.description (nullable text) fields
    <*> (match absent.signature with
      | some signature => (readSignature signature fields).map some
      | none => .ok none)

/-- Reads a variable. -/
def readVariable : Reader Symbol :=
  record "Variable" fun fields =>
    readFields (required (.same "name") text fields) (ofVariable "" .any) fields

/-- Reads a function. -/
def readFunction : Reader Symbol :=
  record "FunctionDefinition" fun fields =>
    readFields (required (.same "name") text fields) (ofFunction "" default) fields

/-- A symbol with some fields replaced.  Its name and its owner are what it is found by, and stay;
unknown fields are ignored. -/
def merge (symbol : Symbol) (fields : Fields) : Checked Symbol :=
  readFields (.ok symbol.name) symbol (fields.filter fun field => field.1 != "scope_id")

/-- What is read has the name, the owner and the kind of owner that were read for it. -/
theorem readFields_eq_ok
    {name : Checked String}
    {absent symbol : Symbol}
    {fields : Fields}
    (read : readFields name absent fields = .ok symbol) :
    name = .ok symbol.name ∧
      optional (.same "scope_id") absent.scopeId (nullable text) fields = .ok symbol.scopeId ∧
      optional (.same "scope_type") absent.scopeKind ScopeKind.read fields =
        .ok symbol.scopeKind := by
  simp only [readFields, Checked.seq_eq_ok_iff, Checked.map_eq_ok_iff] at read
  obtain ⟨_, _, ⟨_, _, ⟨_, _, ⟨_, _, ⟨_, kind, ⟨_, owner, ⟨_, _, ⟨_, named, rfl⟩, _, rfl⟩,
    ownerRead, rfl⟩, kindRead, rfl⟩, _, rfl⟩, _, rfl⟩, _, rfl⟩, _, rfl⟩ := read
  exact ⟨named, ownerRead, kindRead⟩

/-- Changing fields of a symbol keeps its name and its owner, and the kind of its owner unless that
is among the fields. -/
theorem merge_eq_ok
    {symbol merged : Symbol}
    {fields : Fields}
    (accepted : symbol.merge fields = .ok merged) :
    merged.name = symbol.name ∧ merged.scopeId = symbol.scopeId ∧
      ( Json.entry? "scope_type" fields = none → merged.scopeKind = symbol.scopeKind) := by
  obtain ⟨named, owner, kind⟩ := readFields_eq_ok accepted
  have ownerless :
      Json.entry? "scope_id" (fields.filter fun field => field.1 != "scope_id") = none := by
    rw [Json.entry?_eq_none_iff]
    intro field member
    simpa using (List.mem_filter.mp member).2
  rw [optional_same_of_absent ownerless] at owner
  injection named with named
  injection owner with owner
  refine ⟨named.symm, owner.symm, ?_⟩
  intro kindless
  have stillKindless :
      Json.entry? "scope_type" (fields.filter fun field => field.1 != "scope_id") = none := by
    rw [Json.entry?_eq_none_iff] at kindless ⊢
    intro field member
    exact kindless field (List.mem_filter.mp member).1
  rw [optional_same_of_absent stillKindless] at kind
  injection kind with kind
  exact kind.symm

end Symbol

/-- A symbol that is still to be read. -/
structure SymbolDraft where
  isFunction : Bool
  data : Json

/-- Reads a symbol of the kind that its draft asks for. -/
def SymbolDraft.read (draft : SymbolDraft) : Checked Symbol :=
  if draft.isFunction then Symbol.readFunction draft.data else Symbol.readVariable draft.data

end LuauNodes
