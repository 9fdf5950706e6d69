import LuauNodes.Registry.Basic
import LuauNodes.Text.LowerCase
import LuauNodes.Text.WordChar

/-!
# Completion of identifiers

What is offered while an identifier is typed, and how a choice is put into the
text.  Names that begin with the typed fragment come before names that contain
it; within each group the order of visibility is kept.
-/

namespace LuauNodes.Completion

open LuauNodes.Text

/-! ## Filters -/

/-- Which types of symbols are offered. -/
structure TypeFilter where
  included : Option (List LuauType)
  excluded : List LuauType
  acceptsAny : Bool

namespace TypeFilter

/-- Only some types, and the wildcard. -/
def of (types : List LuauType) : TypeFilter := ⟨some types, [], true⟩

/-- Numbers, and the wildcard. -/
def numeric : TypeFilter := of [.number]

/-- All but some types. -/
def excluding (types : List LuauType) : TypeFilter := ⟨none, types, true⟩

/-- The filter lets a type pass. -/
def admits (filter : TypeFilter) (type : LuauType) : Bool :=
  if filter.excluded.contains type then false
  else
    match filter.included with
    | none => true
    | some types => if type == .any then filter.acceptsAny else types.contains type

end TypeFilter

/-- A symbol passes an optional filter. -/
def passes (filter : Option TypeFilter) (symbol : Symbol) : Bool :=
  match filter with
  | none => true
  | some filter => filter.admits symbol.type

/-! ## Ranking -/

/-- A fragment that can begin an identifier. -/
def canTrigger (fragment : String) : Bool :=
  match fragment.toList with
  | [] => false
  | first :: _ => isNameStart first

/-- A list occurs in another without interruption. -/
def occursIn (part : List Char) : List Char → Bool
  | [] => part.isEmpty
  | c :: rest => part.isPrefixOf (c :: rest) || occursIn part rest

/-- The name of a symbol begins with a fragment, case aside. -/
def beginsWith (fragment : String) (symbol : Symbol) : Bool :=
  (lowerCase fragment).toList.isPrefixOf (lowerCase symbol.name).toList

/-- The name of a symbol contains a fragment, case aside. -/
def holds (fragment : String) (symbol : Symbol) : Bool :=
  occursIn (lowerCase fragment).toList (lowerCase symbol.name).toList

/-- The admitted symbols that complete a fragment, best matches first. -/
def rankBy (symbols : List Symbol) (fragment : String) (admits : Symbol → Bool) : List Symbol :=
  if canTrigger fragment then
    let admitted := symbols.filter admits
    (admitted.filter (beginsWith fragment)) ++
      admitted.filter fun symbol => !beginsWith fragment symbol && holds fragment symbol
  else []

/-- The symbols that pass a filter and complete a fragment, best matches first. -/
def rank (symbols : List Symbol) (fragment : String) (filter : Option TypeFilter) : List Symbol :=
  rankBy symbols fragment (passes filter)

/-- Where candidates are looked for: in one namespace, or in both. -/
inductive Source where
  | one (space : Namespace)
  | both

/-- The source that a text names; what is no known name means the variables. -/
def Source.ofText (text : String) : Source :=
  if text == "all" then both else one (.ofText text)

/-- The symbols of a source that are visible from a scope. -/
def candidates (registry : Registry) (source : Source) (document : String)
    (scopeId : Option String) : Except TreeFault (List Symbol) :=
  match source with
  | .one space => registry.visible space document scopeId
  | .both =>
    match registry.visible .vars document scopeId,
      registry.visible .functions document scopeId with
    | .ok vars, .ok functions => .ok (vars ++ functions)
    | .error fault, _ => .error fault
    | _, .error fault => .error fault

/-- The admitted symbols that are visible and complete a fragment. -/
def suggestBy
    (registry : Registry)
    (document : String)
    (scopeId : Option String)
    (fragment : String)
    (admits : Symbol → Bool)
    (source : Source) :
    Except TreeFault (List Symbol) :=
  if canTrigger fragment then
    match candidates registry source document scopeId with
    | .ok symbols => .ok (rankBy symbols fragment admits)
    | .error fault => .error fault
  else .ok []

/-- The visible symbols that pass a filter and complete a fragment. -/
def suggest
    (registry : Registry)
    (document : String)
    (scopeId : Option String)
    (fragment : String)
    (filter : Option TypeFilter)
    (source : Source) :
    Except TreeFault (List Symbol) :=
  suggestBy registry document scopeId fragment (passes filter) source

/-! ## The text around the cursor -/

/-- The place of a cursor in a text of some length; without a cursor it is the end. -/
def cursorPlace (length : Nat) (cursor : Option Int) : Nat :=
  match cursor with
  | none => length
  | some place => min place.toNat length

/-- The word characters at the end of a text. -/
def trailingWord (text : List Char) : List Char :=
  (text.reverse.takeWhile isWordChar).reverse

/-- The fragment at the end of a text; one line break behind it is passed over. -/
def fragmentOf (text : List Char) : List Char :=
  if text.getLast? == some '\n' then trailingWord text.dropLast else trailingWord text

/-- The fragment directly left of the cursor. -/
def fragmentAtCursor (text : String) (cursor : Option Int) : String :=
  let characters := text.toList
  String.ofList (fragmentOf (characters.take (cursorPlace characters.length cursor)))

/-- The characters next to which a completion needs no blank. -/
def boundaryChars : List Char :=
  " \t\n+-*/%()=<>!&|,~^#.:[]\x7b\x7d".toList

/-- The blank between a completion and a neighbouring character. -/
def spacing (neighbour : Option Char) : List Char :=
  match neighbour with
  | some c => if boundaryChars.contains c then [] else [' ']
  | none => []

/-- Puts a name in the place of the fragment left of the cursor, with blanks where it would
otherwise run into its neighbours.  The new cursor stands behind what was put in. -/
def apply (text : String) (cursor : Option Int) (name : String) : String × Nat :=
  let characters := text.toList
  let place := cursorPlace characters.length cursor
  let start := place - (fragmentOf (characters.take place)).length
  let before := characters.take start
  let after := characters.drop place
  let inserted := spacing before.getLast? ++ name.toList ++ spacing after.head?
  (String.ofList (before ++ inserted ++ after), start + inserted.length)

end LuauNodes.Completion
