import DataShape.Encoding.Error
import DataShape.Text.CodeUnits

/-! Texts stored in units of two or four bytes. -/

namespace DataShape.Encoding

def unitOf (bigEndian : Bool) (bs : List UInt8) : Nat :=
  (if bigEndian then bs else bs.reverse).foldl (fun n b => n * 256 + b.toNat) 0

/-- Units of two bytes, and the bytes that are left over. -/
def units16 (bigEndian : Bool) : List UInt8 → List Nat × List UInt8
  | a :: b :: rest =>
    let (units, left) := units16 bigEndian rest
    (unitOf bigEndian [a, b] :: units, left)
  | left => ([], left)

def units32 (bigEndian : Bool) : List UInt8 → List Nat × List UInt8
  | a :: b :: c :: d :: rest =>
    let (units, left) := units32 bigEndian rest
    (unitOf bigEndian [a, b, c, d] :: units, left)
  | left => ([], left)

def decodeUtf16 (bigEndian : Bool) (start : Nat) (bs : List UInt8) : Except Error (List Char) :=
  let (units, left) := units16 bigEndian bs
  if left.isEmpty then .ok (joinPairs units)
  else .error ⟨.utf16 bigEndian, .truncated, start + 2 * units.length, left⟩

/-- The first code that is beyond all characters stops the reading. -/
def codesInRange (bigEndian : Bool) (start : Nat) (bs : List UInt8) : List Nat → Except Error Unit
  | [] => .ok ()
  | code :: codes =>
    if code < 0x110000 then codesInRange bigEndian (start + 4) (bs.drop 4) codes
    else .error ⟨.utf32 bigEndian, .outOfRange, start, bs.take 4⟩

def decodeUtf32 (bigEndian : Bool) (start : Nat) (bs : List UInt8) : Except Error (List Char) := do
  let (units, left) := units32 bigEndian bs
  codesInRange bigEndian start bs units
  if left.isEmpty then return units.map charOfCode
  else throw ⟨.utf32 bigEndian, .truncated, start + 4 * units.length, left⟩

end DataShape.Encoding
