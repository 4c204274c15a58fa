import DataShape.Number.Binary64

/-! The extended line of exact numbers: rationals, the two infinities, and what is not a number,
which has no place on it. Every kind of number that values hold is read as a point of this line, so
comparison and divisibility never round. -/

namespace DataShape

inductive Exact where
  | nan
  | negativeInfinity
  | finite (r : Rat)
  | positiveInfinity
deriving DecidableEq

namespace Exact

def lt : Exact → Exact → Bool
  | .finite a, .finite b => a < b
  | .negativeInfinity, .finite _ | .negativeInfinity, .positiveInfinity => true
  | .finite _, .positiveInfinity => true
  | _, _ => false

/-- The same point of the line; what is not a number is no point. -/
def same : Exact → Exact → Bool
  | .finite a, .finite b => a = b
  | .negativeInfinity, .negativeInfinity | .positiveInfinity, .positiveInfinity => true
  | _, _ => false

def le (a b : Exact) : Bool := a.lt b || a.same b

def ofBinary64 : Binary64 → Exact
  | .nan _ => .nan
  | .infinite negative => if negative then .negativeInfinity else .positiveInfinity
  | x@(.finite _ _ _) => match x.toRat? with
    | some r => .finite r
    | none => .nan

end Exact
end DataShape
