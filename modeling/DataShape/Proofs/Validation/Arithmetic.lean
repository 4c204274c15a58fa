import DataShape.Proofs.Number.Line
import DataShape.Proofs.Validation.Conformance
import DataShape.Proofs.Validation.Independence

/-! Real numbers under one constraint that is a real number. Nothing is rounded where integers and fractions are
divided, nor where numbers of any kind are compared: a factor is one in the exact sense, and a bound is a point of the
line. A number that breaks the constraint has one issue, any other none. -/

namespace DataShape

theorem Binary64.isMultipleOf_of_not_finite {x : Binary64} (hx : (∃ object, x = .nan object) ∨ ∃ negative, x = .infinite negative)
    (y : Binary64) : x.isMultipleOf y = false := by
  rcases hx with ⟨object, rfl⟩ | ⟨negative, rfl⟩
  · cases y <;> rfl
  · cases y <;> rfl

namespace Value

theorem isMultipleOf_of_not_finite {x : Binary64} (hx : (∃ object, x = .nan object) ∨ ∃ negative, x = .infinite negative) (m : Value) :
    (float x).isMultipleOf m = false := by
  unfold isMultipleOf
  cases hm : m.toBinary64? with
  | none => rfl
  | some y => exact Binary64.isMultipleOf_of_not_finite hx y

theorem less_iff_point {a b : Value} (ha : a.isNumber = true) (hb : b.isNumber = true) :
    a.Less b ↔ ∃ x y, a.point? = some x ∧ b.point? = some y ∧ x < y := by
  obtain ⟨x, hx, hpx⟩ := exists_toExact?_of_isNumber ha
  obtain ⟨y, hy, hpy⟩ := exists_toExact?_of_isNumber hb
  rw [less_iff hx hy, Exact.lt_iff, hpx, hpy]

theorem atMost_iff_point {a b : Value} (ha : a.isNumber = true) (hb : b.isNumber = true) :
    a.AtMost b ↔ ∃ x y, a.point? = some x ∧ b.point? = some y ∧ x ≤ y := by
  obtain ⟨x, hx, hpx⟩ := exists_toExact?_of_isNumber ha
  obtain ⟨y, hy, hpy⟩ := exists_toExact?_of_isNumber hb
  rw [atMost_iff hx hy, Exact.le_iff, hpx, hpy]

end Value

namespace NumberRule

/-- A point of the line is on the wrong side of a limit. No factor is a limit. -/
def Excludes (limit x : Line) : NumberRule → Prop
  | .maximum => limit < x
  | .exclusiveMaximum => limit ≤ x
  | .minimum => x < limit
  | .exclusiveMinimum => x ≤ limit
  | .multipleOf => False

/-- Two real numbers stand for points of the line, the first on the wrong side of the second. -/
def Broken (v limit : Value) (rule : NumberRule) : Prop :=
  ∃ x l, v.point? = some x ∧ limit.point? = some l ∧ rule.Excludes l x

/-- The one issue of a number that breaks a constraint names the limit and the number as messages show them. -/
def Reported (v limit : Value) (path : String) (found : Outcome (List Issue)) (rule : NumberRule) : Prop :=
  ∃ shown text, v.numberText = .ok shown ∧ limit.numberText = .ok text ∧
    found = .ok [⟨.invalidValue, rule.demand text shown, path⟩]

/-- A bound holds unless it is broken on the line. -/
theorem holds_eq_false_iff {rule : NumberRule} (hrule : rule ≠ .multipleOf) {v limit : Value}
    (hv : v.isNumber = true) (hlimit : limit.isNumber = true) : rule.holds v limit = false ↔ rule.Broken v limit := by
  have hswap (P : Line → Line → Prop) : (∃ l x, limit.point? = some l ∧ v.point? = some x ∧ P l x) ↔
      ∃ x l, v.point? = some x ∧ limit.point? = some l ∧ P l x := by
    constructor
    · rintro ⟨l, x, hl, hx, h⟩
      exact ⟨x, l, hx, hl, h⟩
    · rintro ⟨x, l, hx, hl, h⟩
      exact ⟨l, x, hl, hx, h⟩
  rw [← Bool.not_eq_true, holds_iff hv hlimit]
  cases rule with
  | multipleOf => exact absurd rfl hrule
  | maximum => exact not_not.trans ((Value.less_iff_point hlimit hv).trans (hswap (· < ·)))
  | exclusiveMaximum => exact not_not.trans ((Value.atMost_iff_point hlimit hv).trans (hswap (· ≤ ·)))
  | minimum => exact not_not.trans (Value.less_iff_point hv hlimit)
  | exclusiveMinimum => exact not_not.trans (Value.atMost_iff_point hv hlimit)

/-- Of numbers that stand for points, the points decide. -/
theorem broken_iff {rule : NumberRule} {v limit : Value} {x l : Line} (hx : v.point? = some x)
    (hl : limit.point? = some l) : rule.Broken v limit ↔ rule.Excludes l x := by
  simp [Broken, hx, hl]

def schema (limit : Value) (rule : NumberRule) : Value := .ofFields [("type", .str "number"), (rule.key, limit)]

section

variable (rule : NumberRule) {v limit : Value} (hv : v.isNumber = true) (hlimit : limit.isNumber = true)
  (hvshown : v.WithinDigitLimit) (hlshown : limit.WithinDigitLimit) (path : String)

include hv hlimit hvshown hlshown

/-- Under a constraint that is a number there is no issue, or there is one. -/
theorem validate_schema : ∃ shown text, v.numberText = .ok shown ∧ limit.numberText = .ok text ∧
    validate (rule.schema limit) v path =
      .ok (if rule.holds v limit then [] else [⟨.invalidValue, rule.demand text shown, path⟩]) := by
  obtain ⟨shown, hshown⟩ := Value.numberText_succeeds hvshown
  obtain ⟨text, htext⟩ := Value.numberText_succeeds hlshown
  refine ⟨shown, text, hshown, htext, (validate_number_one rule limit hv path).trans ?_⟩
  have hnull : limit.isNull = false := by
    cases limit <;> first | rfl | cases hlimit
  simp only [causesFor, causes, numericOptionCauses, hshown, htext, hnull, hlimit, ok_bind]
  cases rule.holds v limit <;> rfl

theorem validate_schema_eq_nil_iff : validate (rule.schema limit) v path = .ok [] ↔ rule.holds v limit = true := by
  obtain ⟨shown, text, -, -, hfound⟩ := rule.validate_schema hv hlimit hvshown hlshown path
  rw [hfound]
  cases rule.holds v limit <;> simp

theorem reported_iff :
    rule.Reported v limit path (validate (rule.schema limit) v path) ↔ rule.holds v limit = false := by
  obtain ⟨shown, text, hshown, htext, hfound⟩ := rule.validate_schema hv hlimit hvshown hlshown path
  unfold Reported
  rw [hfound]
  cases rule.holds v limit <;> simp [hshown, htext]

end

end NumberRule

/-- Integers and fractions are multiples of a factor in the exact sense: of no zero, and of any other just if they are a
whole number of times the factor. Infinities, and what is not a number, are multiples of nothing. -/
theorem divisibility_decided_exactly (m : Value) (hm : m.WithinDigitLimit) (path : String) :
    (∀ (v : Value) (x y : ℚ), v.WithinDigitLimit → v.toRat? = some x → m.toRat? = some y →
      (validate (NumberRule.multipleOf.schema m) v path = .ok [] ↔ y ≠ 0 ∧ ∃ k : ℤ, x = k * y) ∧
      (¬ (y ≠ 0 ∧ ∃ k : ℤ, x = k * y) →
        NumberRule.multipleOf.Reported v m path (validate (NumberRule.multipleOf.schema m) v path))) ∧
    ∀ x : Binary64, (∃ object, x = .nan object) ∨ (∃ negative, x = .infinite negative) → m.isNumber = true →
      NumberRule.multipleOf.Reported (.float x) m path
        (validate (NumberRule.multipleOf.schema m) (.float x) path) := by
  constructor
  · intro v x y hv hx hy
    have hnumber {w : Value} {r : ℚ} (h : w.toRat? = some r) : w.isNumber = true := by
      cases w <;> first | rfl | cases h
    have hholds : NumberRule.multipleOf.holds v m = true ↔ y ≠ 0 ∧ ∃ k : ℤ, x = k * y := by
      rw [← isRationalMultiple_iff_exists, NumberRule.holds, Value.isMultipleOf, hx, hy]
    rw [← hholds, Bool.not_eq_true]
    exact ⟨NumberRule.multipleOf.validate_schema_eq_nil_iff (hnumber hx) (hnumber hy) hv hm path,
      (NumberRule.multipleOf.reported_iff (hnumber hx) (hnumber hy) hv hm path).2⟩
  · intro x hx hnumber
    have hv : (Value.float x).WithinDigitLimit := Value.everywhere_float.2 trivial
    exact (NumberRule.multipleOf.reported_iff rfl hnumber hv hm path).2 (Value.isMultipleOf_of_not_finite hx m)

/-- Minus six is minus four times three halves. Minus a half is no whole number of times that, and no infinity is. -/
theorem three_halves_divide : validate (NumberRule.multipleOf.schema (.fraction (3 / 2))) (.int (-6)) "$" = .ok [] ∧
    NumberRule.multipleOf.Reported (.fraction (-1 / 2)) (.fraction (3 / 2)) "$"
      (validate (NumberRule.multipleOf.schema (.fraction (3 / 2))) (.fraction (-1 / 2)) "$") ∧
    NumberRule.multipleOf.Reported (.float (.infinite true)) (.fraction (3 / 2)) "$"
      (validate (NumberRule.multipleOf.schema (.fraction (3 / 2))) (.float (.infinite true)) "$") := by
  have hfraction {r : ℚ} (hnum : r.num.natAbs ≤ digitLimit) (hden : r.den ≤ digitLimit) :
      (Value.fraction r).WithinDigitLimit :=
    Value.everywhere_fraction.2 ⟨withinDigitLimit_of_le hnum, withinDigitLimit_of_le hden⟩
  have hint : (Value.int (-6)).WithinDigitLimit := Value.everywhere_int.2 (withinDigitLimit_of_le (by decide))
  obtain ⟨hexact, hother⟩ :=
    divisibility_decided_exactly (.fraction (3 / 2)) (hfraction (by decide +kernel) (by decide +kernel)) "$"
  refine ⟨(hexact _ (-6) (3 / 2) hint rfl rfl).1.2 ⟨by norm_num, -4, by norm_num⟩,
    (hexact _ (-1 / 2) (3 / 2) (hfraction (by decide +kernel) (by decide +kernel)) rfl rfl).2 ?_,
    hother (.infinite true) (.inr ⟨true, rfl⟩) rfl⟩
  rintro ⟨-, k, hk⟩
  have hthird : (k : ℚ) * 3 = -1 := by linarith
  have : k * 3 = -1 := by exact_mod_cast hthird
  omega

/-- Bounds are decided on the line of exact numbers, whatever kinds of numbers are compared: a number on the wrong side
has one issue, any other none, and what is not a number is on no side. All others break a maximum just where they keep
the exclusive minimum, and a minimum just where they keep the exclusive maximum. -/
theorem bounds_decided_exactly {v limit : Value} (hv : v.isNumber = true) (hlimit : limit.isNumber = true)
    (hvshown : v.WithinDigitLimit) (hlshown : limit.WithinDigitLimit) (path : String) :
    (∀ rule : NumberRule, rule ≠ .multipleOf →
      (rule.Reported v limit path (validate (rule.schema limit) v path) ↔ rule.Broken v limit) ∧
      (validate (rule.schema limit) v path = .ok [] ↔ ¬ rule.Broken v limit) ∧
      ((∃ object, v = .float (.nan object) ∨ limit = .float (.nan object)) →
        validate (rule.schema limit) v path = .ok [])) ∧
    ((∀ object, v ≠ .float (.nan object)) → (∀ object, limit ≠ .float (.nan object)) →
      (NumberRule.maximum.Reported v limit path (validate (NumberRule.maximum.schema limit) v path) ↔
        validate (NumberRule.exclusiveMinimum.schema limit) v path = .ok []) ∧
      (NumberRule.minimum.Reported v limit path (validate (NumberRule.minimum.schema limit) v path) ↔
        validate (NumberRule.exclusiveMaximum.schema limit) v path = .ok [])) := by
  have hreported {rule : NumberRule} (hrule : rule ≠ .multipleOf) :
      rule.Reported v limit path (validate (rule.schema limit) v path) ↔ rule.Broken v limit :=
    (rule.reported_iff hv hlimit hvshown hlshown path).trans (NumberRule.holds_eq_false_iff hrule hv hlimit)
  have hnil {rule : NumberRule} (hrule : rule ≠ .multipleOf) :
      validate (rule.schema limit) v path = .ok [] ↔ ¬ rule.Broken v limit := by
    rw [rule.validate_schema_eq_nil_iff hv hlimit hvshown hlshown path, ← Bool.not_eq_false,
      NumberRule.holds_eq_false_iff hrule hv hlimit]
  constructor
  · intro rule hrule
    refine ⟨hreported hrule, hnil hrule, fun hnan => (hnil hrule).2 ?_⟩
    rintro ⟨x, l, hx, hl, -⟩
    rcases hnan with ⟨object, rfl | rfl⟩
    · cases hx
    · cases hl
  · intro hvnan hlnan
    rw [← not_exists, ← Value.point?_eq_none_iff hv] at hvnan
    rw [← not_exists, ← Value.point?_eq_none_iff hlimit] at hlnan
    obtain ⟨x, hx⟩ := Option.ne_none_iff_exists'.1 hvnan
    obtain ⟨l, hl⟩ := Option.ne_none_iff_exists'.1 hlnan
    rw [hreported (by decide), hreported (by decide), hnil (by decide), hnil (by decide)]
    simp only [NumberRule.broken_iff hx hl, NumberRule.Excludes, not_le, and_self]

/-- The least whole number that floats leave out is above the float it is rounded to. -/
theorem unrounded_integer_above_float : NumberRule.maximum.Reported (.int 9007199254740993)
      (.float (.finite false 1076 0)) "$"
      (validate (NumberRule.maximum.schema (.float (.finite false 1076 0))) (.int 9007199254740993) "$") ∧
    validate (NumberRule.exclusiveMinimum.schema (.float (.finite false 1076 0))) (.int 9007199254740993) "$" =
      .ok [] := by
  have hint : (Value.int 9007199254740993).WithinDigitLimit :=
    Value.everywhere_int.2 (decide_eq_true (by decide +kernel))
  obtain ⟨hrules, hopposite⟩ := @bounds_decided_exactly (.int 9007199254740993) (.float (.finite false 1076 0)) rfl rfl
    hint (Value.everywhere_float.2 trivial) "$"
  have habove : NumberRule.maximum.Reported (.int 9007199254740993) (.float (.finite false 1076 0)) "$"
      (validate (NumberRule.maximum.schema (.float (.finite false 1076 0))) (.int 9007199254740993) "$") := by
    have hrounded : Binary64.exactValue false 1076 0 < ((9007199254740993 : ℤ) : ℚ) := by decide +kernel
    exact (hrules .maximum (by decide)).1.2 ⟨_, _, rfl, rfl, Line.ofRat_lt_ofRat.2 hrounded⟩
  exact ⟨habove, (hopposite (by simp) (by simp)).1.1 habove⟩

end DataShape
