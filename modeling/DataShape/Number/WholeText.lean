/-! Whole numbers in decimal and hexadecimal digits, and the longest decimal text that is written
or read. -/

namespace DataShape

def decimalDigits (n : Nat) : List Char := Nat.toDigits 10 n

def natText (n : Nat) : String := String.ofList (decimalDigits n)

def intText (n : Int) : String :=
  if n < 0 then "-" ++ natText n.natAbs else natText n.natAbs

/-- The most decimal digits that a whole number may have to be written or read. -/
def digitLimit : Nat := 4300

def withinDigitLimit (n : Int) : Bool := n.natAbs < Nat.pow 10 digitLimit

def digitValue? (c : Char) : Option Nat :=
  if '0' ≤ c ∧ c ≤ '9' then some (c.toNat - '0'.toNat) else none

def hexValue? (c : Char) : Option Nat :=
  if '0' ≤ c ∧ c ≤ '9' then some (c.toNat - '0'.toNat)
  else if 'a' ≤ c ∧ c ≤ 'f' then some (c.toNat - 'a'.toNat + 10)
  else if 'A' ≤ c ∧ c ≤ 'F' then some (c.toNat - 'A'.toNat + 10)
  else none

def ofDigitValues (base : Nat) (digits : List Nat) : Nat := digits.foldl (fun n d => n * base + d) 0

def readDecimal (digits : List Char) : Nat := ofDigitValues 10 (digits.filterMap digitValue?)

def readHex (digits : List Char) : Nat := ofDigitValues 16 (digits.filterMap hexValue?)

def hexDigits (width n : Nat) : List Char :=
  let digits := Nat.toDigits 16 n
  List.replicate (width - digits.length) '0' ++ digits

end DataShape
