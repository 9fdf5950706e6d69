import LuauNodes.Text.LowerCaseTable
import LuauNodes.Text.Range

/-!
# Lower case

Names are compared without regard to case by lowering both sides.  Every
character has its own small form, with two exceptions: the dotted capital I
becomes two characters, and a capital sigma that ends a word takes its final
form.
-/

namespace LuauNodes.Text

/-- The small form of one character, neighbours aside. -/
def lowerChar (c : Char) : List Char :=
  if c.toNat < 128 then [c.toLower]
  else if c.toNat = 0x130 then [Char.ofNat 0x69, Char.ofNat 0x307]
  else
    match capitalRuns.find? fun run =>
        run.first ≤ c.toNat && c.toNat ≤ run.last && (c.toNat - run.first) % run.step == 0 with
    | some run => [Char.ofNat (Int.toNat (Int.ofNat c.toNat + run.offset))]
    | none => [c]

/-- The first character that is not passed over is cased. -/
def meetsCased (neighbours : List Char) : Bool :=
  match neighbours.dropWhile fun c => inRanges caseIgnorableRanges c.toNat with
  | c :: _ => inRanges casedRanges c.toNat
  | [] => false

/-- Lowers a text whose earlier characters are given in reverse. -/
def lowerAfter : List Char → List Char → List Char
  | _, [] => []
  | before, c :: rest =>
    let small :=
      if c.toNat = 0x3a3 then
        if meetsCased before && !meetsCased rest then [Char.ofNat 0x3c2] else [Char.ofNat 0x3c3]
      else lowerChar c
    small ++ lowerAfter (c :: before) rest

/-- The lower-case form of a text. -/
def lowerCase (text : String) : String :=
  String.ofList (lowerAfter [] text.toList)

end LuauNodes.Text
