import DataShape.Number.Rounding

/-! Binary floating-point numbers of 64 bits: the fields, the exact rational value of a finite one,
and the nearest such number to a quotient. -/

namespace DataShape

/-- Two to the power 52: the number of fractions that go with one exponent, and the weight of the leading
bit. -/
abbrev Binary64.fractionCount : Nat := 0x10000000000000

/-- A binary number of 64 bits. What is not a number is equal to nothing: it is known by which object it is. -/
inductive Binary64 where
  | nan (object : Nat)
  | infinite (negative : Bool)
  | finite (negative : Bool) (exponent : Fin 2047) (fraction : Fin Binary64.fractionCount)
deriving DecidableEq, Repr

namespace Binary64

/-- The whole significand of a finite number: the leading bit is there unless the exponent field is zero. -/
def significand (exponent : Fin 2047) (fraction : Fin fractionCount) : Nat :=
  if exponent.val = 0 then fraction.val else fractionCount + fraction.val

def unitExponent (exponent : Fin 2047) : Int := max (exponent.val : Int) 1 - 1075

def magnitude (exponent : Fin 2047) (fraction : Fin fractionCount) : Nat × Nat :=
  scaledFraction 2 (significand exponent fraction) 1 (unitExponent exponent)

/-- What is not a number as it comes out of a text: one object for all texts. -/
def textNaN : Binary64 := .nan 0

/-- A number as its text is read. The text does not say which object it is that is not a number. -/
def asRead : Binary64 → Binary64
  | .nan _ => textNaN
  | x => x

def toRat? : Binary64 → Option Rat
  | .finite negative exponent fraction =>
    let (num, den) := magnitude exponent fraction
    some (mkRat (if negative then -(num : Int) else num) den)
  | _ => none

def zero (negative : Bool) : Binary64 := .finite negative 0 0

/-- The finite number with a significand below `2 ^ 53` counted in `2 ^ unit`, if the exponent fits. -/
def pack (negative : Bool) (m : Nat) (unit : Int) : Option Binary64 :=
  let field := if m < fractionCount then 0 else (unit + 1075).toNat
  if h : field < 2047 then
    some (.finite negative ⟨field, h⟩ ⟨m % fractionCount, Nat.mod_lt _ (by decide)⟩)
  else none

/-- The unit in which `num / den` has 53 significant bits, or the least unit if that is greater. -/
def roundingUnit (num den : Nat) : Int :=
  let guess : Int := (num.log2 : Int) - (den.log2 : Int) - 52
  let (n, d) := scaledFraction 2 num den (-guess)
  max (if n < d * fractionCount then guess - 1 else guess) (-1074)

/-- The number nearest to `num / den`, a tie going to the even significand; `none` when it is out of range. -/
def nearest (negative : Bool) (num den : Nat) : Option Binary64 :=
  if num = 0 then some (zero negative)
  else
    let unit := roundingUnit num den
    let (n, d) := scaledFraction 2 num den (-unit)
    let m := roundedQuotient n d
    if m = 2 * fractionCount then pack negative fractionCount (unit + 1) else pack negative m unit

def ofRat? (r : Rat) : Option Binary64 := nearest (r.num < 0) r.num.natAbs r.den

/-- The number nearest to `± digits · 10 ^ scale`; out of range it is an infinity. -/
def ofDecimal (negative : Bool) (digits : Nat) (scale : Int) : Binary64 :=
  let size : Int := (digits.log2 : Int) / 3
  if digits = 0 ∨ size + 1 + scale < -400 then zero negative
  else if 400 < scale then .infinite negative
  else
    let (n, d) := scaledFraction 10 digits 1 scale
    (nearest negative n d).getD (.infinite negative)

def isZero : Binary64 → Bool
  | .finite _ exponent fraction => significand exponent fraction == 0
  | _ => false

def toInt? (x : Binary64) : Option Int :=
  match x.toRat? with
  | some r => if r.den = 1 then some r.num else none
  | none => none

end Binary64
end DataShape
