/-! Rounding an exact quotient of natural numbers to a whole number, a half going to the even
neighbour. -/

namespace DataShape

/-- `num / den` rounded to the nearest whole number, a half to the even neighbour. -/
def roundedQuotient (num den : Nat) : Nat :=
  let whole := num / den
  let twice := 2 * (num % den)
  if twice < den then whole
  else if den < twice then whole + 1
  else if whole % 2 = 0 then whole else whole + 1

def scaledFraction (base num den : Nat) (scale : Int) : Nat × Nat :=
  if 0 ≤ scale then (num * base.pow scale.toNat, den) else (num, den * base.pow (-scale).toNat)

end DataShape
