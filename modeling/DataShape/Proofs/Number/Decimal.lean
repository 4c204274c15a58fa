import DataShape.Number.WholeText

/-! The decimal digits of natural numbers: they read back, they start with a zero for zero only, and there
are no more of them than a limit just if the number is below that power of ten. -/

namespace DataShape

theorem isDigit_of_mem_decimalDigits {n : Nat} {c : Char} (h : c ∈ decimalDigits n) : c.isDigit = true :=
  Nat.isDigit_of_mem_toDigits (by decide) (by decide) h

theorem decimalDigits_ne_nil (n : Nat) : decimalDigits n ≠ [] := Nat.toDigits_ne_nil

theorem digitValue?_of_isDigit {c : Char} (h : c.isDigit = true) : digitValue? c = some (c.toNat - '0'.toNat) := by
  simp only [Char.isDigit, Bool.and_eq_true, decide_eq_true_eq] at h
  exact if_pos h

theorem ofDigitValues_eq_foldl (base init : Nat) {cs : List Char} (h : ∀ c ∈ cs, c.isDigit = true) :
    (cs.filterMap digitValue?).foldl (fun n d => n * base + d) init = Nat.ofDigitChars base cs init := by
  induction cs generalizing init with
  | nil => rw [Nat.ofDigitChars_nil]; rfl
  | cons c cs ih =>
    rw [List.forall_mem_cons] at h
    rw [List.filterMap_cons_some (digitValue?_of_isDigit h.1), List.foldl_cons, ih _ h.2, Nat.ofDigitChars_cons,
      Nat.mul_comm]

theorem readDecimal_decimalDigits (n : Nat) : readDecimal (decimalDigits n) = n := by
  rw [readDecimal, ofDigitValues, ofDigitValues_eq_foldl 10 0 fun c => isDigit_of_mem_decimalDigits]
  exact Nat.ofDigitChars_ten_toDigits

theorem intText_eq_ofList (n : Int) :
    intText n = String.ofList ((if decide (n < 0) then ['-'] else []) ++ decimalDigits n.natAbs) := by
  unfold intText natText
  by_cases hn : n < 0
  · rw [if_pos hn, decide_eq_true hn, String.ofList_append]
    rfl
  · rw [if_neg hn, decide_eq_false hn]
    rfl

theorem length_decimalDigits_le_iff {n k : Nat} (hk : 0 < k) : (decimalDigits n).length ≤ k ↔ n < Nat.pow 10 k :=
  Nat.length_toDigits_le_iff (by decide) hk

theorem decimalDigits_cases (n : Nat) :
    decimalDigits n = ['0'] ∨ ∃ c cs, decimalDigits n = c :: cs ∧ c ≠ '0' := by
  induction n using Nat.strongRecOn with
  | ind n ih =>
    rw [decimalDigits, Nat.toDigits_eq_if (by decide)]
    split
    · next hsmall =>
      by_cases hzero : n = 0
      · subst hzero
        exact .inl rfl
      · exact .inr ⟨_, [], rfl, by simpa using hzero⟩
    · next hlarge =>
      rcases ih (n / 10) (by omega) with hdigits | ⟨c, cs, hdigits, hc⟩
      · have hzero := readDecimal_decimalDigits (n / 10)
        rw [hdigits] at hzero
        have : readDecimal ['0'] = 0 := by decide
        omega
      · rw [decimalDigits] at hdigits
        rw [hdigits]
        exact .inr ⟨c, cs ++ [(n % 10).digitChar], rfl, hc⟩

end DataShape
