import LuauNodes.Collection.OrderedMap
import LuauNodes.Symbol

/-!
# Symbol tables

The symbols of one namespace, document by document.  In a document a symbol is
found by its scope and its name together, so that a name may be declared once
in every scope.  Symbols are listed in the order in which they were declared;
declaring again keeps the place.  A document without symbols is not kept.
-/

namespace LuauNodes

/-- Where a symbol is kept: the scope that owns it, and its name. -/
structure SymbolKey where
  scopeId : Option String
  name : String
  deriving DecidableEq

/-- The key of a symbol. -/
def Symbol.key (symbol : Symbol) : SymbolKey := ⟨symbol.scopeId, symbol.name⟩

/-- The symbols of a document. -/
abbrev SymbolEntries := OrderedMap SymbolKey Symbol

/-- The symbols of every document. -/
structure SymbolTable where
  documents : OrderedMap String SymbolEntries

/-- What became of a request to change a symbol. -/
inductive Revision where
  | missing
  | rejected (faults : List Record.Fault)
  | revised (symbol : Symbol) (table : SymbolTable)

namespace SymbolTable

/-- The table without symbols. -/
def empty : SymbolTable := ⟨∅⟩

instance : EmptyCollection SymbolTable := ⟨empty⟩

instance : Inhabited SymbolTable := ⟨empty⟩

/-- The symbols of a document by their keys. -/
def entries (table : SymbolTable) (document : String) : SymbolEntries :=
  table.documents.getD document ∅

/-- Replaces the symbols of a document; without symbols the document is dropped. -/
def setEntries (table : SymbolTable) (document : String) (entries : SymbolEntries) : SymbolTable :=
  if entries.isEmpty then ⟨table.documents.erase document⟩
  else ⟨table.documents.insert document entries⟩

/-- The symbol at a key. -/
def lookup? (table : SymbolTable) (document : String) (key : SymbolKey) : Option Symbol :=
  (table.entries document).get? key

/-- Every symbol of a document in the order of declaration. -/
def list (table : SymbolTable) (document : String) : List Symbol :=
  (table.entries document).values

/-- The symbols of a document that a scope owns. -/
def listIn (table : SymbolTable) (document : String) (scopeId : Option String) : List Symbol :=
  (table.list document).filter fun symbol => symbol.scopeId == scopeId

/-- A symbol of some name: the global one if there is one, else the earliest. -/
def find? (table : SymbolTable) (document name : String) : Option Symbol :=
  match table.lookup? document ⟨none, name⟩ with
  | some symbol => some symbol
  | none => (table.list document).find? fun symbol => symbol.name == name

/-- Keeps a symbol at its key; the last one declared there wins. -/
def declare (table : SymbolTable) (document : String) (symbol : Symbol) : SymbolTable :=
  table.setEntries document ((table.entries document).insert symbol.key symbol)

/-- Removes the symbol at a key. -/
def remove (table : SymbolTable) (document : String) (key : SymbolKey) : SymbolTable :=
  table.setEntries document ((table.entries document).erase key)

/-- Changes some fields of the symbol at a key, if all of them have proper values. -/
def revise (table : SymbolTable) (document : String) (key : SymbolKey) (fields : Record.Fields) :
    Revision :=
  match table.lookup? document key with
  | none => .missing
  | some current =>
    match current.merge fields with
    | .bad faults => .rejected faults
    | .ok symbol =>
      .revised symbol
        (table.setEntries document ((table.entries document).insert key symbol))

/-- Removes the symbols at some keys one after the other, and tells which of the keys held one. -/
def removeEach (table : SymbolTable) (document : String) :
    List SymbolKey → List SymbolKey × SymbolTable
  | [] => ([], table)
  | key :: rest =>
    let (held, remaining) := (table.remove document key).removeEach document rest
    (if (table.lookup? document key).isSome then key :: held else held, remaining)

/-- The keys at which the symbols of a scope are kept. -/
def memberKeys (table : SymbolTable) (document : String) (scopeId : Option String) :
    List SymbolKey :=
  (table.listIn document scopeId).map Symbol.key

/-- Removes every symbol that a scope owns. -/
def removeMembers (table : SymbolTable) (document : String) (scopeId : Option String) :
    SymbolTable :=
  (table.removeEach document (table.memberKeys document scopeId)).2

/-- Removes every symbol of a document. -/
def clear (table : SymbolTable) (document : String) : SymbolTable :=
  table.setEntries document ∅

/-- The document has symbols. -/
def hasDocument (table : SymbolTable) (document : String) : Bool :=
  table.documents.contains document

/-- The documents that have symbols. -/
def documentIds (table : SymbolTable) : List String := table.documents.keys

/-- The number of symbols in all documents. -/
def size (table : SymbolTable) : Nat :=
  table.documents.values.foldl (fun total entries => total + entries.size) 0

end SymbolTable

end LuauNodes
