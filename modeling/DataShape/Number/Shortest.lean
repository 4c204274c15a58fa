import DataShape.Number.Binary64

/-! The fewest decimal digits that read back as the same binary number, and among those the nearest
to it. -/

namespace DataShape

/-- The reals that round to one binary number, and the number itself, as fractions over one denominator. -/
structure RoundingInterval where
  low : Nat
  value : Nat
  high : Nat
  den : Nat
  /-- The ends belong to the interval: ties go to this number. -/
  closed : Bool
deriving Repr

namespace RoundingInterval

/-- The interval of a positive number. Below a power of two the numbers lie twice as close. -/
def ofFields (exponent : Fin 2047) (fraction : Fin Binary64.fractionCount) : RoundingInterval :=
  let m := Binary64.significand exponent fraction
  let (unit, den) := scaledFraction 2 1 1 (Binary64.unitExponent exponent - 2)
  let below := if fraction.val = 0 ∧ 1 < exponent.val then 1 else 2
  { low := (4 * m - below) * unit, value := 4 * m * unit, high := (4 * m + 2) * unit, den
    closed := m % 2 == 0 }

def contains (i : RoundingInterval) (num den : Nat) : Bool :=
  if i.closed then decide (i.low * den ≤ num * i.den) && decide (num * i.den ≤ i.high * den)
  else decide (i.low * den < num * i.den) && decide (num * i.den < i.high * den)

/-- The point of the grid of multiples of `10 ^ place` that lies in the interval, the nearer to the
number if both its neighbours do, the even one if they are as near. -/
def onGrid? (i : RoundingInterval) (place : Int) : Option Nat :=
  let (step, parts) := scaledFraction 10 1 1 place
  let below := i.value * parts / (i.den * step)
  let above := below + 1
  match i.contains (below * step) parts, i.contains (above * step) parts with
  | true, false => some below
  | false, true => some above
  | false, false => none
  | true, true =>
    let down := i.value * parts - below * step * i.den
    let up := above * step * i.den - i.value * parts
    if down < up then some below
    else if up < down then some above
    else if below % 2 = 0 then some below else some above

def leadingPlace (i : RoundingInterval) : Int :=
  let guess := ((i.value.log2 : Int) - (i.den.log2 : Int)) * 30103 / 100000 - 1
  let reaches (place : Int) : Bool :=
    let (power, parts) := scaledFraction 10 1 1 place
    power * i.den ≤ i.value * parts
  if reaches (guess + 2) then guess + 2 else if reaches (guess + 1) then guess + 1 else guess

/-- Seventeen digits are always enough. -/
def maxDigits : Nat := 17

/-- The first grid, from coarse to fine, that has a point in the interval, and that point. -/
def shortest (i : RoundingInterval) : Nat × Int :=
  let top := i.leadingPlace
  ((List.range maxDigits).findSome? fun (n : Nat) =>
    let place := top - (n : Int)
    (i.onGrid? place).map (·, place)).getD (0, 0)

end RoundingInterval
end DataShape
