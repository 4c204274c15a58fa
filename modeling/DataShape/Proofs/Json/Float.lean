import DataShape.Proofs.Json.Token
import DataShape.Proofs.Number.FloatText

/-! Binary numbers in a JSON text: the text of a number that reads back is one token, which is the number. -/

namespace DataShape.Json

theorem leadingDigits_append_of_isDigit {a b : List Char} (ha : ∀ c ∈ a, c.isDigit = true)
    (hb : ∀ c, b.head? = some c → c.isDigit = false) : leadingDigits (a ++ b) = a :=
  (DecimalParts.span_isDigit ha hb).1

theorem leadingDigits_of_all {a : List Char} (ha : ∀ c ∈ a, c.isDigit = true) : leadingDigits a = a :=
  List.takeWhile_eq_self_iff.2 ha

variable {p : DecimalParts}

theorem wholeDigits_text (h : p.IsReal) : wholeDigits p.text = p.whole := by
  rcases h.leading with hzero | hfirst
  · rw [DecimalParts.text, hzero]
    rfl
  · obtain ⟨c, cs, hwhole⟩ := List.exists_cons_of_ne_nil h.whole_ne_nil
    have hc : c ≠ '0' := by
      rintro rfl
      exact hfirst (by rw [hwhole]; rfl)
    have hall := leadingDigits_append_of_isDigit h.whole (DecimalParts.pointText_head p.fraction? p.exponent?)
    rw [DecimalParts.text]
    rw [hwhole] at hall ⊢
    rw [List.cons_append] at hall ⊢
    rw [wholeDigits_cons, if_neg hc, hall]

theorem fractionDigits_text (h : p.IsReal) :
    fractionDigits (DecimalParts.pointText p.fraction? ++ DecimalParts.exponentText p.exponent?) =
      p.fraction?.getD [] := by
  cases hfraction : p.fraction? with
  | none => cases p.exponent? <;> rfl
  | some fraction =>
    rw [DecimalParts.pointText, List.cons_append, fractionDigits_cons, if_pos rfl]
    exact leadingDigits_append_of_isDigit (h.fraction fraction hfraction) (DecimalParts.exponentText_head _)

theorem scanExponent_text (h : p.IsReal) :
    scanExponent (DecimalParts.exponentText p.exponent?) =
      (DecimalParts.exponentValue p.exponent?, (DecimalParts.exponentText p.exponent?).length) := by
  cases hexponent : p.exponent? with
  | none => rfl
  | some exponent =>
    obtain ⟨negative, digits⟩ := exponent
    have hall := leadingDigits_of_all (h.exponent negative digits hexponent)
    have hne : ¬ digits.isEmpty = true := by
      rw [List.isEmpty_iff]
      rintro rfl
      exact h.exponent_ne_nil negative hexponent
    have hof (sign : Bool) : exponentOf sign 1 digits =
        (if sign then -(readDecimal digits : Int) else readDecimal digits, 1 + 1 + digits.length) := by
      rw [exponentOf, hall]
      exact if_neg hne
    rw [DecimalParts.exponentText, scanExponent_cons, if_pos (.inl rfl)]
    cases negative
    · exact (hof false).trans (by rw [DecimalParts.exponentValue]; simp; omega)
    · exact (hof true).trans (by rw [DecimalParts.exponentValue]; simp; omega)

theorem drop_whole_text (p : DecimalParts) :
    p.text.drop p.whole.length = DecimalParts.pointText p.fraction? ++ DecimalParts.exponentText p.exponent? :=
  List.drop_left

theorem mantissaLength_text (h : p.IsReal) :
    mantissaLength p.text = p.whole.length + (DecimalParts.pointText p.fraction?).length := by
  rw [mantissaLength, wholeDigits_text h, drop_whole_text, fractionDigits_text h]
  cases hfraction : p.fraction? with
  | none => rfl
  | some fraction =>
    have hne : ¬ fraction.isEmpty = true := by
      rw [List.isEmpty_iff]
      rintro rfl
      exact h.fraction_ne_nil hfraction
    exact congrArg _ (if_neg hne)

theorem scanNumber_text (h : p.IsReal) (negative : Bool) :
    scanNumber negative p.text = some (.real (p.value negative), p.text.length) := by
  have hlength := mantissaLength_text h
  have hmantissa : p.text.drop (p.whole.length + (DecimalParts.pointText p.fraction?).length) =
      DecimalParts.exponentText p.exponent? := by
    rw [DecimalParts.text, ← List.append_assoc, ← List.length_append, List.drop_left]
  have hwhole : ¬ p.whole.isEmpty = true := fun hnil => h.whole_ne_nil (List.isEmpty_iff.1 hnil)
  have hreal : ¬ ((p.fraction?.getD []).isEmpty &&
      decide ((DecimalParts.exponentText p.exponent?).length = 0)) = true := by
    rw [Bool.and_eq_true, List.isEmpty_iff, decide_eq_true_eq]
    rintro ⟨hfraction, hexponent⟩
    rcases h.not_alone with hne | hne
    · obtain ⟨fraction, heq⟩ := Option.ne_none_iff_exists'.1 hne
      rw [heq] at hfraction
      exact h.fraction_ne_nil (heq.trans (congrArg some hfraction))
    · obtain ⟨exponent, heq⟩ := Option.ne_none_iff_exists'.1 hne
      rw [heq] at hexponent
      cases hexponent
  rw [scanNumber_eq, wholeDigits_text h, hlength, hmantissa, scanExponent_text h, if_neg hwhole, drop_whole_text,
    fractionDigits_text h, if_neg hreal, DecimalParts.text, List.length_append, List.length_append, Nat.add_assoc]
  rfl

theorem return_not_mem_text (h : p.IsReal) : '\r' ∉ p.text := by
  intro hmem
  rcases h.mem_text hmem with hdigit | hother
  · cases hdigit
  · exact absurd hother (by decide)

/-- A number with a text that reads back is read as itself from a JSON text. -/
theorem tokens_textIn {x : Binary64} (h : x.ReadsBack) :
    '\r' ∉ (x.textIn .json).toList ∧ tokens (x.textIn .json).toList = [.real x.asRead] := by
  cases x with
  | nan object =>
    show '\r' ∉ "NaN".toList ∧ tokens "NaN".toList = [.real .textNaN]
    decide
  | infinite negative => cases negative <;> decide
  | finite negative exponent fraction =>
    obtain ⟨p, hp, hvalue, htext⟩ := Binary64.exists_parts_of_readsBack h
    obtain ⟨c, cs, hfirst, hc⟩ := hp.text_eq_cons
    have hnumber := scanNumber_text hp negative
    rw [htext]
    constructor
    · rw [List.mem_append, not_or]
      exact ⟨by cases negative <;> decide, return_not_mem_text hp⟩
    · rw [hfirst] at hnumber ⊢
      rw [tokens_of_scanNumber hc hnumber, hvalue]
      rfl

end DataShape.Json
