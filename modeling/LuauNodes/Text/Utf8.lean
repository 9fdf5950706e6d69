import LuauNodes.Text.Digit

/-!
# Decoding UTF-8

Bytes as characters.  The first byte of a sequence tells how many bytes continue
it and between which bounds the second one lies, so that every character has one
spelling and no surrogate has any.  A fault covers the bytes of the sequence that
were good as far as they went.
-/

namespace LuauNodes.Text.Utf8

/-- Why bytes are not the spelling of a character. -/
inductive Reason where
  | start
  | continuation
  | endOfData
  deriving DecidableEq

/-- The wording of a reason. -/
def Reason.message : Reason → String
  | start => "invalid start byte"
  | continuation => "invalid continuation byte"
  | endOfData => "unexpected end of data"

/-- A fault: the first of its bytes, where it stands, and how many bytes there are. -/
structure Fault where
  first : UInt8
  position : Nat
  length : Nat
  reason : Reason
  deriving DecidableEq

/-- The wording of a fault. -/
def Fault.message (fault : Fault) : String :=
  let place :=
    if fault.length == 1 then
      s!"byte 0x{hexText 2 fault.first.toNat} in position {fault.position}"
    else s!"bytes in position {fault.position}-{fault.position + fault.length - 1}"
  "'utf-8' codec can't decode " ++ place ++ ": " ++ fault.reason.message

/-- What the first byte of a sequence says. -/
structure Lead where
  /-- The bits that the first byte contributes. -/
  bits : Nat
  /-- The number of bytes that continue it. -/
  more : Nat
  /-- The bounds of the second byte. -/
  low : Nat
  high : Nat

/-- What a byte says as the first one of a sequence. -/
def lead? (byte : Nat) : Option Lead :=
  if byte < 0x80 then some ⟨byte, 0, 0, 0⟩
  else if byte < 0xc2 then none
  else if byte < 0xe0 then some ⟨byte - 0xc0, 1, 0x80, 0xbf⟩
  else if byte == 0xe0 then some ⟨0, 2, 0xa0, 0xbf⟩
  else if byte == 0xed then some ⟨0xd, 2, 0x80, 0x9f⟩
  else if byte < 0xf0 then some ⟨byte - 0xe0, 2, 0x80, 0xbf⟩
  else if byte == 0xf0 then some ⟨0, 3, 0x90, 0xbf⟩
  else if byte == 0xf4 then some ⟨4, 3, 0x80, 0x8f⟩
  else if byte < 0xf4 then some ⟨byte - 0xf0, 3, 0x80, 0xbf⟩
  else none

/-- Reads the bytes that continue a sequence: the code point and the rest, or the reason and the
number of good bytes. -/
def continue? (code low high : Nat) :
    Nat → Nat → List UInt8 → Except (Reason × Nat) (Nat × List UInt8)
  | 0, _, rest => .ok (code, rest)
  | _ + 1, good, [] => .error (.endOfData, good)
  | more + 1, good, byte :: rest =>
    if low ≤ byte.toNat && byte.toNat ≤ high then
      continue? (code * 64 + (byte.toNat - 0x80)) 0x80 0xbf more (good + 1) rest
    else .error (.continuation, good)

/-- Decodes bytes from a position on; `done` holds the characters before it, the last one
first. -/
def decodeFrom : Nat → Nat → List Char → List UInt8 → Except Fault (List Char)
  | 0, _, done, _ => .ok done.reverse
  | _, _, done, [] => .ok done.reverse
  | fuel + 1, position, done, first :: rest =>
    match lead? first.toNat with
    | none => .error ⟨first, position, 1, .start⟩
    | some lead =>
      match continue? lead.bits lead.low lead.high lead.more 1 rest with
      | .error (reason, good) => .error ⟨first, position, good, reason⟩
      | .ok (code, after) =>
        decodeFrom fuel (position + lead.more + 1) (Char.ofNat code :: done) after

/-- The characters that some bytes spell. -/
def decode (bytes : List UInt8) : Except Fault (List Char) :=
  decodeFrom (bytes.length + 1) 0 [] bytes

end LuauNodes.Text.Utf8
