import DataShape.Proofs.Outcome
import DataShape.Proofs.Value.Parts
import DataShape.Value.Description
import Mathlib.Algebra.Group.Nat.Defs

/-! Values in which no whole number is too long to be written. Every way of writing such a value
succeeds: as a literal, as plain text, as a number, and as a short description. -/

namespace DataShape

/-- A number that is not too long to be written; what is no number is never too long. -/
def Value.IsWritableNumber : Value → Prop
  | .int n => withinDigitLimit n = true
  | .fraction r => withinDigitLimit r.num = true ∧ withinDigitLimit r.den = true
  | _ => True

/-- No whole number inside the value is too long to be written, nor a part of a fraction. -/
def Value.WithinDigitLimit (v : Value) : Prop := v.Everywhere Value.IsWritableNumber

theorem writtenInt_eq_ok {n : Int} {s : String} :
    writtenInt n = .ok s ↔ withinDigitLimit n = true ∧ intText n = s := by
  unfold writtenInt
  split
  · next h => simp [h]
  · next h => simp [h]

theorem writtenInt_succeeds {n : Int} (h : withinDigitLimit n = true) : ∃ s, writtenInt n = .ok s :=
  ⟨_, writtenInt_eq_ok.2 ⟨h, rfl⟩⟩

theorem writtenInt_eq_error {n : Int} {e : Failure} (h : writtenInt n = .error e) : e = .tooLongToWrite := by
  unfold writtenInt at h
  split at h
  · cases h
  · cases h
    rfl

theorem lt_ten_pow {n digits : Nat} (h : n ≤ digits) : n < Nat.pow 10 digits :=
  Nat.lt_of_le_of_lt h (Nat.lt_pow_self (by decide))

theorem withinDigitLimit_of_le {n : Int} (h : n.natAbs ≤ digitLimit) : withinDigitLimit n = true :=
  decide_eq_true (lt_ten_pow h)

theorem natAbs_num_mkRat_le (n : Int) {d : Nat} (hd : d ≠ 0) : (mkRat n d).num.natAbs ≤ n.natAbs := by
  rw [Rat.num_mkRat, if_neg hd]
  exact Int.natAbs_ediv_le_natAbs _ _

namespace Binary64

theorem significand_lt (exponent : Fin 2047) (fraction : Fin fractionCount) :
    significand exponent fraction < 2 ^ 53 := by
  have : fraction.val < 0x10000000000000 := fraction.isLt
  unfold significand
  split
  · omega
  · show 0x10000000000000 + fraction.val < _
    omega

theorem mul_two_pow_lt {m k digits : Nat} (hm : m < 2 ^ 53) (hk : 53 + k ≤ digits) :
    m * 2 ^ k < Nat.pow 10 digits :=
  calc m * 2 ^ k < 2 ^ 53 * 2 ^ k := Nat.mul_lt_mul_of_pos_right hm (Nat.pow_pos (by decide))
    _ = 2 ^ (53 + k) := (Nat.pow_add 2 53 k).symm
    _ ≤ 10 ^ (53 + k) := Nat.pow_le_pow_left (by decide) _
    _ ≤ Nat.pow 10 digits := Nat.pow_le_pow_right (by decide) hk

/-- The numerator of a magnitude is a significand, moved up by less than a thousand binary places. -/
theorem magnitude_fst_lt (exponent : Fin 2047) (fraction : Fin fractionCount) (digits : Nat)
    (h : 1024 ≤ digits) : (magnitude exponent fraction).1 < Nat.pow 10 digits := by
  have hm := significand_lt exponent fraction
  have he := exponent.isLt
  unfold magnitude scaledFraction unitExponent
  split
  · exact mul_two_pow_lt hm (by omega)
  · have hlt := mul_two_pow_lt (k := 0) hm (by omega : 53 + 0 ≤ digits)
    rwa [Nat.pow_zero, Nat.mul_one] at hlt

theorem magnitude_snd_ne_zero (exponent : Fin 2047) (fraction : Fin fractionCount) :
    (magnitude exponent fraction).2 ≠ 0 := by
  unfold magnitude scaledFraction
  split
  · exact Nat.one_ne_zero
  · exact Nat.ne_of_gt (Nat.mul_pos Nat.one_pos (Nat.pow_pos (by decide)))

theorem toInt?_eq_some {x : Binary64} {n : Int} (h : x.toInt? = some n) :
    ∃ r, x.toRat? = some r ∧ r.den = 1 ∧ r.num = n := by
  unfold toInt? at h
  split at h
  · next r hr =>
    split at h
    · next hden => exact ⟨r, hr, hden, Option.some.inj h⟩
    · cases h
  · cases h

theorem withinDigitLimit_of_toInt? {x : Binary64} {n : Int} (h : x.toInt? = some n) :
    withinDigitLimit n = true := by
  obtain ⟨r, hr, -, rfl⟩ := toInt?_eq_some h
  cases x with
  | nan => cases hr
  | infinite _ => cases hr
  | finite negative exponent fraction =>
    obtain rfl := Option.some.inj hr
    have hle := natAbs_num_mkRat_le
      (if negative then -((magnitude exponent fraction).1 : Int) else (magnitude exponent fraction).1)
      (magnitude_snd_ne_zero exponent fraction)
    refine decide_eq_true (Nat.lt_of_le_of_lt hle ?_)
    have hlt := magnitude_fst_lt exponent fraction digitLimit (by decide)
    cases negative
    · exact hlt
    · rwa [if_pos rfl, Int.natAbs_neg]

end Binary64

namespace Value

theorem literals_eq_mapM (vs : List Value) : literals vs = vs.mapM literal := by
  induction vs with
  | nil => rfl
  | cons v vs ih => simp only [literals, List.mapM_cons, ih]

def entryLiteral (entry : Value × Value) : Outcome String := do
  let key ← entry.1.literal
  let value ← entry.2.literal
  return key ++ ": " ++ value

theorem entryLiterals_eq_mapM (entries : Entries) : entryLiterals entries = entries.mapM entryLiteral := by
  induction entries with
  | nil => rfl
  | cons entry entries ih =>
    obtain ⟨key, v⟩ := entry
    simp only [entryLiterals, List.mapM_cons, ih, entryLiteral, bind_assoc, pure_bind]

theorem entryLiterals_succeed {entries : Entries}
    (h : ∀ entry ∈ entries, (∃ s, entry.1.literal = .ok s) ∧ ∃ s, entry.2.literal = .ok s) :
    ∃ pieces, entryLiterals entries = .ok pieces := by
  rw [entryLiterals_eq_mapM]
  refine mapM_succeeds.2 fun entry hentry => ?_
  obtain ⟨⟨key, hkey⟩, value, hvalue⟩ := h entry hentry
  exact ⟨_, by simp only [entryLiteral, hkey, hvalue, ok_bind]; rfl⟩

theorem literals_succeed (vs : List Value) (h : ∀ v ∈ vs, ∃ s, v.literal = .ok s) :
    ∃ pieces, literals vs = .ok pieces := by
  rw [literals_eq_mapM]
  exact mapM_succeeds.2 h

theorem WithinDigitLimit.int {n : Int} (h : (Value.int n).WithinDigitLimit) : withinDigitLimit n = true := by
  have := h.here
  rwa [IsWritableNumber] at this

theorem WithinDigitLimit.fraction {r : Rat} (h : (Value.fraction r).WithinDigitLimit) :
    withinDigitLimit r.num = true ∧ withinDigitLimit r.den = true := by
  have := h.here
  rwa [IsWritableNumber] at this

theorem literal_succeeds {v : Value} (h : v.WithinDigitLimit) : ∃ s, v.literal = .ok s := by
  induction v using induction_on_parts with
  | step v ih =>
    have part (x : Value) (hx : x ∈ v.parts) : ∃ s, x.literal = .ok s := ih x hx (h.part hx)
    have pairs {entries : Entries} (hv : v.parts = entries.flatMap fun entry => [entry.1, entry.2]) :
        ∃ pieces, entryLiterals entries = .ok pieces := by
      refine entryLiterals_succeed fun entry hentry => ⟨part _ ?_, part _ ?_⟩
      · rw [hv]; exact mem_entry_parts.2 ⟨entry, hentry, .inl rfl⟩
      · rw [hv]; exact mem_entry_parts.2 ⟨entry, hentry, .inr rfl⟩
    cases v with
    | null | undefined | bool _ | float _ | decimal _ | str _ | bytes _ => exact ⟨_, rfl⟩
    | int n => exact writtenInt_succeeds h.int
    | fraction r =>
      obtain ⟨num, hnum⟩ := writtenInt_succeeds h.fraction.1
      obtain ⟨den, hden⟩ := writtenInt_succeeds h.fraction.2
      exact ⟨_, by simp only [literal, hnum, hden, ok_bind]; rfl⟩
    | list items =>
      obtain ⟨pieces, hpieces⟩ := literals_succeed items part
      exact ⟨_, by simp only [literal, hpieces, ok_bind]; rfl⟩
    | tuple items =>
      obtain ⟨pieces, hpieces⟩ := literals_succeed items part
      match items, part with
      | [], _ => exact ⟨_, rfl⟩
      | [item], part =>
        obtain ⟨s, hs⟩ := part item (List.mem_singleton_self item)
        exact ⟨_, by simp only [literal, hs, ok_bind]; rfl⟩
      | first :: second :: rest, _ => exact ⟨_, by simp only [literal, hpieces, ok_bind]; rfl⟩
    | set items =>
      obtain ⟨pieces, hpieces⟩ := literals_succeed items part
      cases items with
      | nil => exact ⟨_, rfl⟩
      | cons first rest => exact ⟨_, by simp only [literal, hpieces, ok_bind]; rfl⟩
    | dict entries =>
      obtain ⟨pieces, hpieces⟩ := pairs rfl
      exact ⟨_, by simp only [literal, hpieces, ok_bind]; rfl⟩
    | view entries =>
      obtain ⟨pieces, hpieces⟩ := pairs rfl
      exact ⟨_, by simp only [literal, hpieces, ok_bind]; rfl⟩

theorem plain_succeeds {v : Value} (h : v.WithinDigitLimit) : ∃ s, v.plain = .ok s := by
  cases v with
  | str s => exact ⟨s, rfl⟩
  | decimal d => exact ⟨d.text, rfl⟩
  | fraction r =>
    obtain ⟨num, hnum⟩ := writtenInt_succeeds h.fraction.1
    obtain ⟨den, hden⟩ := writtenInt_succeeds h.fraction.2
    simp only [plain, hnum, hden, ok_bind]
    split <;> exact ⟨_, rfl⟩
  | _ => exact literal_succeeds h

theorem numberText_succeeds {v : Value} (h : v.WithinDigitLimit) : ∃ s, v.numberText = .ok s := by
  cases v with
  | float x =>
    simp only [numberText]
    split
    · next n hn => exact writtenInt_succeeds (Binary64.withinDigitLimit_of_toInt? hn)
    · exact ⟨_, rfl⟩
  | _ => simpa only [numberText] using plain_succeeds h

theorem literals_eq_error {vs : List Value} {e : Failure} (h : literals vs = .error e) :
    ∃ v ∈ vs, v.literal = .error e := by
  rw [literals_eq_mapM] at h
  exact exists_of_mapM_eq_error h

theorem entryLiterals_eq_error {entries : Entries} {e : Failure} (h : entryLiterals entries = .error e) :
    ∃ entry ∈ entries, entry.1.literal = .error e ∨ entry.2.literal = .error e := by
  rw [entryLiterals_eq_mapM] at h
  obtain ⟨entry, hentry, h⟩ := exists_of_mapM_eq_error h
  refine ⟨entry, hentry, ?_⟩
  rcases bind_eq_error.1 h with h | ⟨key, -, h⟩
  · exact .inl h
  · rcases bind_eq_error.1 h with h | ⟨value, -, h⟩
    · exact .inr h
    · cases h

theorem literal_eq_error {v : Value} {e : Failure} (h : v.literal = .error e) : e = .tooLongToWrite := by
  induction v using induction_on_parts with
  | step v ih =>
    have pieces {items : List Value} {f : List String → Outcome String} (hv : v.parts = items)
        (hf : ∀ pieces, ∃ s, f pieces = .ok s) (h : (literals items >>= f) = .error e) : e = .tooLongToWrite := by
      rcases bind_eq_error.1 h with h | ⟨found, -, h⟩
      · obtain ⟨x, hx, h⟩ := literals_eq_error h
        exact ih x (hv ▸ hx) h
      · obtain ⟨s, hs⟩ := hf found
        rw [hs] at h
        cases h
    have pairs {entries : Entries} {f : List String → Outcome String}
        (hv : v.parts = entries.flatMap fun entry => [entry.1, entry.2]) (hf : ∀ pieces, ∃ s, f pieces = .ok s)
        (h : (entryLiterals entries >>= f) = .error e) : e = .tooLongToWrite := by
      rcases bind_eq_error.1 h with h | ⟨found, -, h⟩
      · obtain ⟨entry, hentry, h | h⟩ := entryLiterals_eq_error h
        · exact ih _ (hv ▸ mem_entry_parts.2 ⟨entry, hentry, .inl rfl⟩) h
        · exact ih _ (hv ▸ mem_entry_parts.2 ⟨entry, hentry, .inr rfl⟩) h
      · obtain ⟨s, hs⟩ := hf found
        rw [hs] at h
        cases h
    cases v with
    | null | undefined | bool _ | float _ | decimal _ | str _ | bytes _ => cases h
    | int n => exact writtenInt_eq_error h
    | fraction r =>
      rcases bind_eq_error.1 h with h | ⟨num, -, h⟩
      · exact writtenInt_eq_error h
      · rcases bind_eq_error.1 h with h | ⟨den, -, h⟩
        · exact writtenInt_eq_error h
        · cases h
    | list items => exact pieces rfl (fun pieces => ⟨_, rfl⟩) h
    | tuple items =>
      cases items with
      | nil => cases h
      | cons first rest =>
        cases rest with
        | nil =>
          rcases bind_eq_error.1 h with h | ⟨s, -, h⟩
          · exact ih first (List.mem_singleton_self first) h
          · cases h
        | cons second rest => exact pieces rfl (fun pieces => ⟨_, rfl⟩) h
    | set items =>
      cases items with
      | nil => cases h
      | cons first rest => exact pieces rfl (fun pieces => ⟨_, rfl⟩) h
    | dict entries => exact pairs rfl (fun pieces => ⟨_, rfl⟩) h
    | view entries => exact pairs rfl (fun pieces => ⟨_, rfl⟩) h

theorem plain_eq_error {v : Value} {e : Failure} (h : v.plain = .error e) : e = .tooLongToWrite := by
  cases v with
  | str s => cases h
  | decimal d => cases h
  | fraction r =>
    rcases bind_eq_error.1 h with h | ⟨num, -, h⟩
    · exact writtenInt_eq_error h
    · split at h
      · cases h
      · rcases bind_eq_error.1 h with h | ⟨den, -, h⟩
        · exact writtenInt_eq_error h
        · cases h
  | _ => exact literal_eq_error h

theorem numberText_eq_error {v : Value} {e : Failure} (h : v.numberText = .error e) : e = .tooLongToWrite := by
  cases v with
  | float x =>
    simp only [numberText] at h
    split at h
    · exact writtenInt_eq_error h
    · cases h
  | _ =>
    simp only [numberText] at h
    exact plain_eq_error h

end Value
end DataShape
