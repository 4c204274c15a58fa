import DataShape.Proofs.Number.FloatText
import DataShape.Proofs.Number.Line

/-! The texts that messages show numbers as: whole numbers in decimal, whatever kind of number they are, fractions with
a slash, and all other binary numbers with a point or an exponent. A text reads back as the point of the line that its
number stands for, so that numbers which differ are shown differently. -/

namespace DataShape

/-- The whole number that digits stand for, with a minus in front of them or not. -/
def readInt : List Char → Int
  | '-' :: digits => -(readDecimal digits : Int)
  | digits => readDecimal digits

theorem readInt_of_isDigit {digits : List Char} (h : ∀ c ∈ digits, c.isDigit = true) :
    readInt digits = readDecimal digits := by
  unfold readInt
  split
  · cases h '-' List.mem_cons_self
  · rfl

theorem readInt_intText (n : Int) : readInt (intText n).toList = n := by
  rw [intText_eq_ofList, String.toList_ofList]
  by_cases hn : n < 0
  · rw [decide_eq_true hn]
    show -(readDecimal (decimalDigits n.natAbs) : Int) = n
    rw [readDecimal_decimalDigits]
    omega
  · rw [decide_eq_false hn]
    show readInt (decimalDigits n.natAbs) = n
    rw [readInt_of_isDigit fun c => isDigit_of_mem_decimalDigits, readDecimal_decimalDigits]
    omega

theorem mem_intText {n : Int} {c : Char} (h : c ∈ (intText n).toList) : c.isDigit = true ∨ c = '-' := by
  rw [intText_eq_ofList, String.toList_ofList] at h
  rcases List.mem_append.1 h with hsign | hdigit
  · split at hsign
    · exact .inr (List.mem_singleton.1 hsign)
    · cases hsign
  · exact .inl (isDigit_of_mem_decimalDigits hdigit)

def ratioText (r : ℚ) : String := intText r.num ++ "/" ++ natText r.den

theorem toList_ratioText (r : ℚ) : (ratioText r).toList = (intText r.num).toList ++ '/' :: decimalDigits r.den := by
  have hslash : "/".toList = ['/'] := by decide
  simp only [ratioText, natText, String.toList_append, String.toList_ofList, hslash, List.append_assoc,
    List.singleton_append]

namespace Binary64

variable {x : Binary64}

theorem ReadsBack.exists_parts {negative : Bool} {exponent : Fin 2047} {fraction : Fin fractionCount}
    (h : (finite negative exponent fraction).ReadsBack) :
    ∃ p : DecimalParts, p.IsReal ∧
      (finite negative exponent fraction).text.toList = (if negative then ['-'] else []) ++ p.text := by
  obtain ⟨p, hp, -, htext⟩ := exists_parts_of_readsBack h
  exact ⟨p, hp, htext⟩

theorem ReadsBack.not_mem_text (h : x.ReadsBack) : '/' ∉ x.text.toList ∧ ',' ∉ x.text.toList := by
  cases x with
  | nan object =>
    show '/' ∉ "nan".toList ∧ ',' ∉ "nan".toList
    decide
  | infinite negative => cases negative <;> decide
  | finite negative exponent fraction =>
    obtain ⟨p, hp, htext⟩ := h.exists_parts
    have hother {c : Char} (hdigit : c.isDigit = false) (hmark : c ∉ ['.', 'e', '-', '+']) :
        c ∉ (if negative then ['-'] else []) ++ p.text := by
      intro hc
      rcases List.mem_append.1 hc with hsign | hbody
      · split at hsign
        · obtain rfl := List.mem_singleton.1 hsign
          exact hmark (by decide)
        · cases hsign
      · rcases hp.mem_text hbody with hbody | hbody
        · rw [hdigit] at hbody
          cases hbody
        · exact hmark hbody
    rw [htext]
    exact ⟨hother (by decide) (by decide), hother (by decide) (by decide)⟩

theorem ReadsBack.exists_mem_text (h : x.ReadsBack) : ∃ c ∈ x.text.toList, c.isDigit = false ∧ c ≠ '-' := by
  cases x with
  | nan object =>
    have hmem : 'n' ∈ "nan".toList := by decide
    exact ⟨'n', hmem, by decide, by decide⟩
  | infinite negative => exact ⟨'i', by cases negative <;> decide, by decide, by decide⟩
  | finite negative exponent fraction =>
    obtain ⟨p, hp, htext⟩ := h.exists_parts
    rw [htext]
    rcases hp.exists_mem_text with hmem | hmem
    · exact ⟨'.', List.mem_append_right _ hmem, by decide, by decide⟩
    · exact ⟨'e', List.mem_append_right _ hmem, by decide, by decide⟩

end Binary64

theorem span_ne {c : Char} {front : List Char} (h : c ∉ front) (rest : List Char) :
    (front ++ c :: rest).takeWhile (· ≠ c) = front ∧ (front ++ c :: rest).dropWhile (· ≠ c) = c :: rest := by
  have hfront : ∀ d ∈ front, decide (d ≠ c) = true := by
    intro d hd
    apply decide_eq_true
    rintro rfl
    exact h hd
  rw [List.takeWhile_append_of_pos hfront, List.dropWhile_append_of_pos hfront]
  simp

/-- The point of the line that the text of a number stands for. -/
def Line.ofText? (s : List Char) : Option Line :=
  if '/' ∈ s then some (ofRat (readInt (s.takeWhile (· ≠ '/')) / readDecimal (s.dropWhile (· ≠ '/')).tail))
  else if s.all fun c => c.isDigit || c == '-' then some (ofRat (readInt s))
  else (Binary64.ofText? s).bind Binary64.point?

namespace Line

theorem ofRat_injective : Function.Injective ofRat := WithBot.coe_injective.comp WithTop.coe_injective

theorem ofText?_intText (n : ℤ) : ofText? (intText n).toList = some (ofRat n) := by
  have hslash : '/' ∉ (intText n).toList := by
    intro hmem
    exact absurd (mem_intText hmem) (by decide)
  have hwhole : ((intText n).toList.all fun c => c.isDigit || c == '-') = true := by
    rw [List.all_eq_true]
    intro c hc
    simpa using mem_intText hc
  rw [ofText?, if_neg hslash, if_pos hwhole, readInt_intText]

theorem ofText?_ratioText (r : ℚ) : ofText? (ratioText r).toList = some (ofRat r) := by
  have hnum : '/' ∉ (intText r.num).toList := by
    intro hmem
    exact absurd (mem_intText hmem) (by decide)
  have hslash : '/' ∈ (ratioText r).toList := by
    rw [toList_ratioText]
    exact List.mem_append_right _ List.mem_cons_self
  obtain ⟨htake, hdrop⟩ := span_ne hnum (decimalDigits r.den)
  rw [ofText?, if_pos hslash, toList_ratioText, htake, hdrop, List.tail_cons, readInt_intText,
    readDecimal_decimalDigits, Rat.num_div_den]

theorem ofText?_binaryText {x : Binary64} (h : x.ReadsBack) : ofText? x.text.toList = x.point? := by
  obtain ⟨c, hmem, hdigit, hminus⟩ := h.exists_mem_text
  have hwhole : ¬ (x.text.toList.all fun c => c.isDigit || c == '-') = true := by
    intro hall
    have hc := List.all_eq_true.1 hall c hmem
    simp [hdigit, hminus] at hc
  rw [ofText?, if_neg h.not_mem_text.1, if_neg hwhole, h, Option.bind_some, Binary64.point?_asRead]

end Line

namespace Binary64

theorem point?_of_toInt? {x : Binary64} {n : ℤ} (h : x.toInt? = some n) : x.point? = some (.ofRat n) := by
  obtain ⟨r, hr, hden, rfl⟩ := toInt?_eq_some h
  cases x with
  | nan => cases hr
  | infinite _ => cases hr
  | finite negative exponent fraction =>
    rw [toRat?_finite] at hr
    obtain rfl := Option.some.inj hr
    rw [point?, Rat.coe_int_num_of_den_eq_one hden]

theorem toInt?_of_point? {x : Binary64} {n : ℤ} (h : x.point? = some (.ofRat n)) : x.toInt? = some n := by
  cases x with
  | nan => cases h
  | infinite negative =>
    cases negative
    · exact absurd (Option.some.inj h) (Line.ofRat_lt_top n).ne'
    · exact absurd (Option.some.inj h) (Line.bot_lt_ofRat n).ne
  | finite negative exponent fraction =>
    have hvalue : exactValue negative exponent fraction = n := Line.ofRat_injective (Option.some.inj h)
    rw [toInt?, toRat?_finite, hvalue]
    rfl

end Binary64

namespace Value

/-- The text of a binary number is read as the number, unless it is shown as a whole number. -/
def ReadsBackUnlessWhole : Value → Prop
  | .float x => x.toInt? = none → x.ReadsBack
  | _ => True

/-- The text of a number is of one of three forms. -/
theorem numberText_cases {v : Value} {a : Line} {s : String} (ha : v.point? = some a) (hv : v.ReadsBackUnlessWhole)
    (h : v.numberText = .ok s) :
    (∃ n : ℤ, a = .ofRat n ∧ s = intText n) ∨ (∃ r : ℚ, a = .ofRat r ∧ s = ratioText r) ∨
      ∃ x : Binary64, x.point? = some a ∧ x.ReadsBack ∧ s = x.text := by
  cases v with
  | int n =>
    simp only [numberText, plain, literal] at h
    obtain ⟨-, rfl⟩ := writtenInt_eq_ok.1 h
    exact .inl ⟨n, (Option.some.inj ha).symm, rfl⟩
  | fraction r =>
    obtain rfl := Option.some.inj ha
    simp only [numberText, plain] at h
    obtain ⟨num, hnum, h⟩ := bind_eq_ok.1 h
    obtain ⟨-, rfl⟩ := writtenInt_eq_ok.1 hnum
    split at h
    · next hden =>
      cases h
      exact .inl ⟨r.num, by rw [Rat.coe_int_num_of_den_eq_one hden], rfl⟩
    · obtain ⟨den, hden, h⟩ := bind_eq_ok.1 h
      obtain ⟨-, rfl⟩ := writtenInt_eq_ok.1 hden
      cases h
      exact .inr (.inl ⟨r, rfl, rfl⟩)
  | float x =>
    simp only [numberText] at h
    split at h
    · next n hn =>
      obtain ⟨-, rfl⟩ := writtenInt_eq_ok.1 h
      exact .inl ⟨n, Option.some.inj (ha.symm.trans (Binary64.point?_of_toInt? hn)), rfl⟩
    · next hn =>
      cases h
      exact .inr (.inr ⟨x, ha, hv hn, rfl⟩)
  | _ => cases ha

/-- The text of a number reads back as its point. -/
theorem ofText?_numberText {v : Value} {a : Line} {s : String} (ha : v.point? = some a) (hv : v.ReadsBackUnlessWhole)
    (h : v.numberText = .ok s) : Line.ofText? s.toList = some a := by
  rcases numberText_cases ha hv h with ⟨n, rfl, rfl⟩ | ⟨r, rfl, rfl⟩ | ⟨x, hx, hback, rfl⟩
  · exact Line.ofText?_intText n
  · exact Line.ofText?_ratioText r
  · exact (Line.ofText?_binaryText hback).trans hx

theorem comma_not_mem_numberText {v : Value} {a : Line} {s : String} (ha : v.point? = some a)
    (hv : v.ReadsBackUnlessWhole) (h : v.numberText = .ok s) : ',' ∉ s.toList := by
  have hint (n : ℤ) : ',' ∉ (intText n).toList := by
    intro hmem
    exact absurd (mem_intText hmem) (by decide)
  rcases numberText_cases ha hv h with ⟨n, rfl, rfl⟩ | ⟨r, rfl, rfl⟩ | ⟨x, hx, hback, rfl⟩
  · exact hint n
  · rw [toList_ratioText, List.mem_append, List.mem_cons, not_or, not_or]
    refine ⟨hint _, by decide, ?_⟩
    intro hmem
    cases isDigit_of_mem_decimalDigits hmem
  · exact hback.not_mem_text.2

theorem numberText_ne {v w : Value} {a b : Line} {s t : String} (ha : v.point? = some a) (hb : w.point? = some b)
    (hne : a ≠ b) (hv : v.ReadsBackUnlessWhole) (hw : w.ReadsBackUnlessWhole) (hs : v.numberText = .ok s)
    (ht : w.numberText = .ok t) : s ≠ t := by
  rintro rfl
  apply hne
  exact Option.some.inj ((ofText?_numberText ha hv hs).symm.trans (ofText?_numberText hb hw ht))

theorem numberText_of_whole {v : Value} {n : ℤ} (ha : v.point? = some (.ofRat n)) (hv : v.WithinDigitLimit) :
    v.numberText = .ok (intText n) := by
  cases v with
  | int m =>
    obtain rfl : m = n := by exact_mod_cast Line.ofRat_injective (Option.some.inj ha)
    simp only [numberText, plain, literal]
    exact writtenInt_eq_ok.2 ⟨hv.int, rfl⟩
  | fraction r =>
    obtain rfl : r = n := Line.ofRat_injective (Option.some.inj ha)
    obtain ⟨num, hnum⟩ := writtenInt_succeeds hv.fraction.1
    obtain ⟨-, rfl⟩ := writtenInt_eq_ok.1 hnum
    simp only [numberText, plain, hnum, ok_bind]
    rfl
  | float x =>
    have hn := Binary64.toInt?_of_point? ha
    simp only [numberText, hn]
    exact writtenInt_eq_ok.2 ⟨Binary64.withinDigitLimit_of_toInt? hn, rfl⟩
  | _ => cases ha

end Value
end DataShape
