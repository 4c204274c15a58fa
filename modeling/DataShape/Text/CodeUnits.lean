/-! Characters by their codes. A character beyond the first 65536 can be given as a pair of codes; half
of a pair on its own is no character. -/

namespace DataShape

/-- The first half of a pair that stands for one character. -/
def isHighHalf (unit : Nat) : Bool := 0xd800 ≤ unit && unit < 0xdc00

def isLowHalf (unit : Nat) : Bool := 0xdc00 ≤ unit && unit < 0xe000

/-- A code as a character. Half of a pair on its own has no place in a text: the mark for a missing character stands in
for it. -/
def charOfCode (code : Nat) : Char := if code.isValidChar then Char.ofNat code else '\ufffd'

/-- The characters of some codes, two halves of a pair joined. -/
def joinPairs : List Nat → List Char
  | high :: low :: rest =>
    if isHighHalf high && isLowHalf low then
      charOfCode (0x10000 + (high - 0xd800) * 0x400 + (low - 0xdc00)) :: joinPairs rest
    else charOfCode high :: joinPairs (low :: rest)
  | [code] => [charOfCode code]
  | [] => []

theorem charOfCode_toNat (c : Char) : charOfCode c.toNat = c := by
  have valid : c.toNat.isValidChar := c.valid
  simp [charOfCode, valid]

end DataShape
