import DataShape.Proofs.Value.Limit
import DataShape.Validation.Constraint
import Mathlib.Algebra.Order.Ring.Rat
import Mathlib.Order.WithBot
import Mathlib.Tactic.NormNum

/-! The line of exact numbers: the rational numbers in their order, between two ends. Numbers of all kinds stand for
points of it, a binary number for what its fields say, an infinity for an end; only what is not a number stands
nowhere. Comparison of numbers is the order of the line. -/

namespace DataShape

/-- The rational numbers, with an end below all of them and one above. -/
abbrev Line := WithBot (WithTop ℚ)

def Line.ofRat (r : ℚ) : Line := ((r : WithTop ℚ) : WithBot (WithTop ℚ))

theorem Line.ofRat_lt_ofRat {a b : ℚ} : ofRat a < ofRat b ↔ a < b :=
  WithBot.coe_lt_coe.trans WithTop.coe_lt_coe

theorem Line.ofRat_le_ofRat {a b : ℚ} : ofRat a ≤ ofRat b ↔ a ≤ b :=
  WithBot.coe_le_coe.trans WithTop.coe_le_coe

theorem Line.bot_lt_ofRat (r : ℚ) : ⊥ < ofRat r := WithBot.bot_lt_coe _

theorem Line.ofRat_lt_top (r : ℚ) : ofRat r < ⊤ := WithBot.coe_lt_coe.2 (WithTop.coe_lt_top r)

namespace Binary64

/-- The rational number that the fields of a finite number stand for: a fraction of 52 bits behind a leading bit, which
is missing in the numbers of the least exponent. -/
def exactValue (negative : Bool) (exponent : Fin 2047) (fraction : Fin fractionCount) : ℚ :=
  let magnitude : ℚ :=
    if exponent.val = 0 then fraction.val * 2 ^ (-1074 : ℤ)
    else (2 ^ 52 + fraction.val) * 2 ^ ((exponent.val : ℤ) - 1075)
  if negative then -magnitude else magnitude

def point? : Binary64 → Option Line
  | .nan _ => none
  | .infinite negative => some (if negative then ⊥ else ⊤)
  | .finite negative exponent fraction => some (.ofRat (exactValue negative exponent fraction))

theorem point?_asRead (x : Binary64) : x.asRead.point? = x.point? := by
  cases x <;> rfl

theorem scaledFraction_ratio (n : ℕ) (k : ℤ) :
    ((scaledFraction 2 n 1 k).1 : ℚ) / ((scaledFraction 2 n 1 k).2 : ℚ) = n * 2 ^ k := by
  unfold scaledFraction
  split
  · next h =>
    obtain ⟨j, rfl⟩ := Int.eq_ofNat_of_zero_le h
    simp
  · next h =>
    obtain ⟨j, hj⟩ := Int.eq_ofNat_of_zero_le (by omega : 0 ≤ -k)
    obtain rfl : k = -j := by omega
    simp [div_eq_mul_inv]

theorem exactValue_eq (negative : Bool) (exponent : Fin 2047) (fraction : Fin fractionCount) :
    exactValue negative exponent fraction =
      (if negative then -1 else 1) * (significand exponent fraction * 2 ^ unitExponent exponent) := by
  have hmagnitude : (if exponent.val = 0 then fraction.val * 2 ^ (-1074 : ℤ)
      else (2 ^ 52 + fraction.val) * 2 ^ ((exponent.val : ℤ) - 1075) : ℚ) =
        significand exponent fraction * 2 ^ unitExponent exponent := by
    unfold significand unitExponent
    by_cases hzero : exponent.val = 0
    · simp [hzero]
    · have hmax : max (exponent.val : ℤ) 1 = exponent.val := by omega
      have hcount : ((fractionCount : ℕ) : ℚ) = 2 ^ 52 := by norm_num
      rw [if_neg hzero, if_neg hzero, hmax, Nat.cast_add, hcount]
  simp only [exactValue, hmagnitude]
  cases negative <;> simp

/-- The value that numbers are computed with is the one that their fields stand for. -/
theorem toRat?_finite (negative : Bool) (exponent : Fin 2047) (fraction : Fin fractionCount) :
    (finite negative exponent fraction).toRat? = some (exactValue negative exponent fraction) := by
  have hratio := scaledFraction_ratio (significand exponent fraction) (unitExponent exponent)
  rw [exactValue_eq, ← hratio]
  simp only [toRat?, magnitude, Rat.mkRat_eq_div, Option.some.injEq]
  cases negative
  · simp
  · simp [neg_div]

end Binary64

namespace Exact

def point? : Exact → Option Line
  | .nan => none
  | .negativeInfinity => some ⊥
  | .finite r => some (.ofRat r)
  | .positiveInfinity => some ⊤

/-- To be strictly below is to be less on the line; what is not a number is neither below anything nor above it. -/
theorem lt_iff {x y : Exact} : x.lt y = true ↔ ∃ a b, x.point? = some a ∧ y.point? = some b ∧ a < b := by
  cases x <;> cases y <;> simp [lt, point?, Line.ofRat_lt_ofRat, Line.bot_lt_ofRat, Line.ofRat_lt_top]

theorem le_iff {x y : Exact} : x.le y = true ↔ ∃ a b, x.point? = some a ∧ y.point? = some b ∧ a ≤ b := by
  have hbelow (r : ℚ) : Line.ofRat r ≠ ⊥ := (Line.bot_lt_ofRat r).ne'
  have habove (r : ℚ) : ¬ ⊤ ≤ Line.ofRat r := (Line.ofRat_lt_top r).not_ge
  cases x <;> cases y <;>
    simp [le, lt, same, point?, hbelow, habove, Line.ofRat_le_ofRat, ← le_iff_lt_or_eq]

theorem point?_ofBinary64 (x : Binary64) : (ofBinary64 x).point? = x.point? := by
  cases x with
  | nan => rfl
  | infinite negative => cases negative <;> rfl
  | finite negative exponent fraction =>
    simp only [ofBinary64, Binary64.toRat?_finite, point?, Binary64.point?]

end Exact

namespace Value

def point? : Value → Option Line
  | .int n => some (.ofRat n)
  | .fraction r => some (.ofRat r)
  | .float x => x.point?
  | _ => none

/-- A real number is compared as the point that it stands for. -/
theorem exists_toExact?_of_isNumber {v : Value} (h : v.isNumber = true) :
    ∃ x, v.toExact? = some x ∧ x.point? = v.point? := by
  cases v with
  | int n => exact ⟨_, rfl, rfl⟩
  | fraction r => exact ⟨_, rfl, rfl⟩
  | float x => exact ⟨_, rfl, Exact.point?_ofBinary64 x⟩
  | _ => cases h

theorem point?_eq_none_iff {v : Value} (h : v.isNumber = true) : v.point? = none ↔ ∃ object, v = .float (.nan object) := by
  cases v with
  | int n => simp [point?]
  | fraction r => simp [point?]
  | float x => cases x <;> simp [point?, Binary64.point?]
  | _ => cases h

end Value
end DataShape
