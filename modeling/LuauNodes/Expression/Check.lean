import LuauNodes.Diagnostic
import LuauNodes.Expression.Names
import LuauNodes.Expression.Parse

/-!
# Checking expressions

The diagnostics of an expression that is typed into a node.  A text that is no
expression gives one error.  Where the visible names are known, every other name
that the expression reads gives one warning, at its first use; the names of the
language environment are visible everywhere.

An expression that can be read may still be too deep for the walk that collects its
names: a chain of operators is one level of the grammar, but one step of the tree for
each operand.  Such an expression gives one error, and no name of it is looked at.
-/

namespace LuauNodes.Expression

/-- The names of some uses, each at its first use, without the names that are known. -/
def unknownNames (known : String → Bool) : List NameUse → List String
  | [] => []
  | use :: rest =>
    let others := unknownNames known rest
    if known use.name then others else use.name :: others.filter (· ≠ use.name)

/-- A name is visible, or the language environment provides it. -/
def isKnown (visible : List String) (name : String) : Bool :=
  visible.contains name || environmentNames.contains name

/-- The most calls that the walk for names may nest: as many as the reader makes, two for each
level of the grammar. -/
def maxReach : Nat := 2 * maxDepth

/-- The diagnostics of a text that should be an expression.  Names are not checked where it is
not known which are visible. -/
def check
    (text : String)
    (field : String)
    (visible : Option (List String))
    (socketId : Option String) :
    List Diagnostic :=
  match parse text field, visible with
  | .error fault, _ => [⟨.expression fault, .error, socketId⟩]
  | .ok _, none => []
  | .ok tree, some visible =>
    if tree.reach ≤ maxReach then
      (unknownNames (isKnown visible) tree.names).map fun name =>
        ⟨.undefinedIdentifier name, .warning, socketId⟩
    else [⟨.expression .tooDeep, .error, socketId⟩]

end LuauNodes.Expression
