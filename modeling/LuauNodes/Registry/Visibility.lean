import LuauNodes.Registry.ScopeTree
import LuauNodes.Registry.SymbolTable

/-!
# Visibility

Which symbols can be named from a scope: its own, those of the scopes around it
from the inside out, and the global ones.  The nearest declaration of a name
hides the others.  From a scope that is not known every symbol is visible, so
that a passing disagreement with the editor never hides anything.
-/

namespace LuauNodes

/-- The symbols of a list whose names do not occur earlier in it. -/
def firstByName : List Symbol → List Symbol
  | [] => []
  | symbol :: rest =>
    symbol :: (firstByName rest).filter fun other => other.name ≠ symbol.name

/-- The symbols that some scopes own, scope by scope, and then the global ones. -/
def alongChain (symbols : List Symbol) (chain : List String) : List Symbol :=
  (chain.flatMap fun scopeId => symbols.filter fun symbol => symbol.scopeId == some scopeId) ++
    symbols.filter Symbol.isGlobal

/-- The symbols visible from a scope, innermost first. -/
def visibleSymbols
    (table : SymbolTable)
    (tree : ScopeTree)
    (document : String)
    (scopeId : Option String) :
    Except TreeFault (List Symbol) :=
  let symbols := table.list document
  match scopeId with
  | none => .ok (firstByName (alongChain symbols []))
  | some inner =>
    if symbols.isEmpty || !tree.has document scopeId then .ok symbols
    else
      match tree.ancestors document inner with
      | .error fault => .error fault
      | .ok outer => .ok (firstByName (alongChain symbols (inner :: outer)))

/-- The symbol that a name means in a scope. -/
def resolveSymbol
    (table : SymbolTable)
    (tree : ScopeTree)
    (document name : String)
    (scopeId : Option String) :
    Except TreeFault (Option Symbol) :=
  match visibleSymbols table tree document scopeId with
  | .error fault => .error fault
  | .ok symbols => .ok (symbols.find? fun symbol => symbol.name == name)

end LuauNodes
