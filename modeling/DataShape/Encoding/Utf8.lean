import DataShape.Encoding.Error
import DataShape.Text.CodeUnits

/-! Texts stored in one to four bytes a character. -/

namespace DataShape.Encoding

/-- What must follow a first byte: how many bytes, and the bounds of the first of them. -/
structure Tail where
  length : Nat
  least : UInt8
  most : UInt8
deriving DecidableEq, Repr

def tail? (lead : UInt8) : Option Tail :=
  if lead < 0x80 then some ⟨0, 0x80, 0xbf⟩
  else if lead < 0xc2 then none
  else if lead < 0xe0 then some ⟨1, 0x80, 0xbf⟩
  else if lead = 0xe0 then some ⟨2, 0xa0, 0xbf⟩
  else if lead = 0xed then some ⟨2, 0x80, 0x9f⟩
  else if lead < 0xf0 then some ⟨2, 0x80, 0xbf⟩
  else if lead = 0xf0 then some ⟨3, 0x90, 0xbf⟩
  else if lead < 0xf4 then some ⟨3, 0x80, 0xbf⟩
  else if lead = 0xf4 then some ⟨3, 0x80, 0x8f⟩
  else none

/-- The part of a code that a first byte carries, `length` bytes following it. -/
def leadBits (lead : UInt8) (length : Nat) : Nat :=
  if length = 0 then lead.toNat else lead.toNat % Nat.pow 2 (6 - length)

/-- Goes through the bytes behind a first byte: the code, or what is wrong and how many bytes before it
are right. -/
def followTail (code : Nat) (right : Nat) (tail : Tail) (bs : List UInt8) : Except (Reason × Nat) Nat :=
  match tail.length with
  | 0 => .ok code
  | left + 1 =>
    match bs with
    | [] => .error (.endOfData, right)
    | b :: bs =>
      if tail.least ≤ b ∧ b ≤ tail.most then
        followTail (code * 64 + b.toNat % 64) (right + 1) ⟨left, 0x80, 0xbf⟩ bs
      else .error (.continuationByte, right)

def storedHalf? : List UInt8 → Option Nat
  | 0xed :: b :: c :: _ =>
    if 0xa0 ≤ b ∧ b ≤ 0xbf ∧ 0x80 ≤ c ∧ c ≤ 0xbf then
      some (0xd000 + b.toNat % 64 * 64 + c.toNat % 64)
    else none
  | _ => none

def scanUtf8 (halves : Bool) (lead : UInt8) (bs : List UInt8) : Except (Reason × Nat) (Nat × Nat) :=
  match if halves then storedHalf? (lead :: bs) else none with
  | some half => .ok (half, 3)
  | none =>
    match tail? lead with
    | none => .error (.startByte, 1)
    | some tail =>
      match followTail (leadBits lead tail.length) 1 tail bs with
      | .ok code => .ok (code, tail.length + 1)
      | .error e => .error e

/-- The characters of bytes, the first of which stands at `start` and the first `taken` of which belong
to a character before it. -/
def utf8From (halves : Bool) (taken start : Nat) : List UInt8 → Except Error (List Char)
  | [] => .ok []
  | b :: bs =>
    match taken with
    | left + 1 => utf8From halves left (start + 1) bs
    | 0 =>
      match scanUtf8 halves b bs with
      | .error (reason, length) => .error ⟨.utf8, reason, start, (b :: bs).take length⟩
      | .ok (code, length) => do
        return charOfCode code :: (← utf8From halves (length - 1) (start + 1) bs)

def decodeUtf8 (halves : Bool) (bs : List UInt8) : Except Error (List Char) := utf8From halves 0 0 bs

def encodeUtf8 (cs : List Char) : List UInt8 := cs.flatMap String.utf8EncodeChar

end DataShape.Encoding
