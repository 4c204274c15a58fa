import DataShape.Proofs.Value.Limit
import DataShape.Validation.Constraint
import Mathlib.Data.Rat.Floor
import Mathlib.Tactic.FieldSimp
import Mathlib.Tactic.Linarith

/-! Division of real numbers of every kind with the quotient rounded down. A number is a whole multiple of
another just if this leaves nothing. -/

namespace DataShape

/-- What division of a rational number by another leaves. -/
def rationalRemainder (x m : Rat) : Rat := x - m * ⌊x / m⌋

theorem rationalRemainder_eq_zero {x m : Rat} (hm : m ≠ 0) : rationalRemainder x m = 0 ↔ (x / m).den = 1 := by
  have hquotient : rationalRemainder x m = 0 ↔ x / m = (⌊x / m⌋ : Int) := by
    rw [rationalRemainder, sub_eq_zero, div_eq_iff hm, mul_comm]
  rw [hquotient]
  constructor
  · intro h
    rw [h]
    exact Rat.den_intCast _
  · intro h
    have hnum : x / m = ((x / m).num : Int) := (Rat.coe_int_num_of_den_eq_one h).symm
    rw [hnum, Int.floor_intCast]

theorem isRationalMultiple_iff {x m : Rat} :
    isRationalMultiple x m = true ↔ m ≠ 0 ∧ rationalRemainder x m = 0 := by
  simp only [isRationalMultiple, Bool.and_eq_true, decide_eq_true_eq, beq_iff_eq, ne_eq]
  exact and_congr_right fun hm => (rationalRemainder_eq_zero hm).symm

theorem isRationalMultiple_iff_exists {x m : Rat} :
    isRationalMultiple x m = true ↔ m ≠ 0 ∧ ∃ k : Int, x = k * m := by
  simp only [isRationalMultiple, Bool.and_eq_true, decide_eq_true_eq, beq_iff_eq]
  refine and_congr_right fun hm => ⟨fun hden => ⟨(x / m).num, ?_⟩, ?_⟩
  · rw [← div_eq_iff hm]
    exact (Rat.coe_int_num_of_den_eq_one hden).symm
  · rintro ⟨k, rfl⟩
    rw [mul_div_cancel_right₀ _ hm]
    exact Rat.den_intCast k

namespace Binary64

theorem magnitude_fst_eq_zero {exponent : Fin 2047} {fraction : Fin fractionCount} :
    (magnitude exponent fraction).1 = 0 ↔ significand exponent fraction = 0 := by
  have hpow : Nat.pow 2 (unitExponent exponent).toNat ≠ 0 := Nat.ne_of_gt (Nat.pow_pos (by decide))
  unfold magnitude scaledFraction
  split
  · simp only [Nat.mul_eq_zero, hpow, or_false]
  · rfl

theorem toRat?_eq_zero {x : Binary64} : x.toRat? = some 0 ↔ x.isZero = true := by
  cases x with
  | nan => simp [toRat?, isZero]
  | infinite _ => simp [toRat?, isZero]
  | finite negative exponent fraction =>
    simp only [toRat?, isZero, beq_iff_eq, Option.some.injEq,
      Rat.mkRat_eq_zero (magnitude_snd_ne_zero exponent fraction), ← magnitude_fst_eq_zero]
    cases negative <;> simp

/-- What division of a binary number by another leaves, before it is rounded. It is not defined for a zero
divisor, and is no number for what is none. -/
def remainder? (x m : Binary64) : Option Exact :=
  if m.isZero then none
  else match x.toRat?, m with
    | none, _ | _, .nan _ => some .nan
    | some a, .infinite negative =>
      some (if a = 0 ∨ (a < 0 ↔ negative) then .finite a
        else if negative then .negativeInfinity else .positiveInfinity)
    | some a, m => m.toRat?.map fun b => .finite (rationalRemainder a b)

theorem isMultipleOf_iff {x m : Binary64} : x.isMultipleOf m = true ↔ x.remainder? m = some (.finite 0) := by
  unfold isMultipleOf remainder?
  cases m with
  | nan => cases x.toRat? <;> simp [isZero]
  | infinite negative =>
    rw [← toRat?_eq_zero]
    cases x.toRat? with
    | none => simp [isZero]
    | some a =>
      by_cases ha : a = 0
      · simp [ha, isZero]
      · cases negative <;> simp [ha, isZero] <;> split <;> simp [ha]
  | finite negative exponent fraction =>
    obtain ⟨b, hb⟩ : ∃ b, (Binary64.finite negative exponent fraction).toRat? = some b := ⟨_, rfl⟩
    cases hm : (Binary64.finite negative exponent fraction).isZero with
    | true =>
      rw [toRat?_eq_zero.2 hm]
      cases x.toRat? <;> simp [isRationalMultiple]
    | false =>
      have hne : b ≠ 0 := by
        rintro rfl
        rw [toRat?_eq_zero.1 hb] at hm
        cases hm
      rw [hb]
      cases x.toRat? with
      | none => simp
      | some a => simp [isRationalMultiple_iff, hne, hb]

end Binary64

namespace Value

/-- What division of a real number by another leaves, if it is defined. Integers and fractions are divided
exactly; if one of the two is a binary number, the other is rounded to one first, which fails out of range. -/
def remainder? (v m : Value) : Option Exact :=
  match v.toRat?, m.toRat? with
  | some x, some m => if m = 0 then none else some (.finite (rationalRemainder x m))
  | _, _ =>
    match v.toBinary64?, m.toBinary64? with
    | some x, some m => x.remainder? m
    | _, _ => none

theorem isMultipleOf_iff {v m : Value} : v.isMultipleOf m = true ↔ v.remainder? m = some (.finite 0) := by
  have hbinary : (match v.toBinary64?, m.toBinary64? with
      | some x, some m => x.isMultipleOf m
      | _, _ => false) = true ↔
      (match v.toBinary64?, m.toBinary64? with
      | some x, some m => x.remainder? m
      | _, _ => none) = some (.finite 0) := by
    cases v.toBinary64? with
    | none => simp
    | some x => cases m.toBinary64? <;> simp [Binary64.isMultipleOf_iff]
  unfold isMultipleOf remainder?
  cases v.toRat? with
  | none => exact hbinary
  | some x =>
    cases m.toRat? with
    | none => exact hbinary
    | some b =>
      simp only [isRationalMultiple_iff]
      by_cases hb : b = 0 <;> simp [hb]

theorem remainder?_of_isZero {v m : Value} (hm : m.toExact? = some (.finite 0)) (hnumber : m.isNumber = true) :
    v.remainder? m = none := by
  obtain ⟨x, hx, hzero⟩ : ∃ x, m.toBinary64? = some x ∧ x.isZero = true := by
    cases m with
    | int n =>
      obtain rfl : n = 0 := by simpa [toExact?] using hm
      exact ⟨.zero false, rfl, rfl⟩
    | fraction r =>
      obtain rfl : r = 0 := by simpa [toExact?] using hm
      exact ⟨.zero false, rfl, rfl⟩
    | float x =>
      refine ⟨x, rfl, Binary64.toRat?_eq_zero.1 ?_⟩
      cases x with
      | finite negative exponent fraction => simpa [toExact?, Exact.ofBinary64, Binary64.toRat?] using hm
      | nan => simp [toExact?, Exact.ofBinary64] at hm
      | infinite negative => cases negative <;> simp [toExact?, Exact.ofBinary64] at hm
    | _ => cases hnumber
  have hbinary (y : Binary64) : y.remainder? x = none := if_pos hzero
  have hrounded : (match v.toBinary64?, m.toBinary64? with
      | some x, some m => x.remainder? m
      | _, _ => none) = none := by
    rw [hx]
    cases v.toBinary64? with
    | none => rfl
    | some y => exact hbinary y
  unfold remainder?
  cases v.toRat? with
  | none => exact hrounded
  | some a =>
    cases hr : m.toRat? with
    | none => exact hrounded
    | some r =>
      have hr : r = 0 := by
        cases m with
        | int n | fraction q => simp_all [toExact?, toRat?]
        | _ => cases hr
      exact if_pos hr

end Value
end DataShape
