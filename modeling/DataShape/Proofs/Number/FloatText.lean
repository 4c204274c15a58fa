import DataShape.Number.FloatText
import DataShape.Proofs.Number.Decimal
import Mathlib.Data.List.TakeWhile

/-! The form of the text of a binary number: digits, then a point with more digits or an exponent, or both. A
text of this form reads back as the number that its parts stand for. -/

namespace DataShape

/-- The parts of a number that is written with a point or an exponent, without its sign. -/
structure DecimalParts where
  whole : List Char
  fraction? : Option (List Char)
  exponent? : Option (Bool × List Char)

namespace DecimalParts

def pointText : Option (List Char) → List Char
  | none => []
  | some fraction => '.' :: fraction

def exponentText : Option (Bool × List Char) → List Char
  | none => []
  | some (negative, digits) => 'e' :: (if negative then '-' else '+') :: digits

def exponentValue : Option (Bool × List Char) → Int
  | none => 0
  | some (negative, digits) => if negative then -(readDecimal digits : Int) else readDecimal digits

def text (p : DecimalParts) : List Char := p.whole ++ (pointText p.fraction? ++ exponentText p.exponent?)

/-- The number that the parts stand for behind a sign. -/
def value (p : DecimalParts) (negative : Bool) : Binary64 :=
  .ofDecimalText negative p.whole (p.fraction?.getD []) (exponentValue p.exponent?)

/-- Digits stand wherever digits can stand, and in front there is one. -/
structure IsNumeral (p : DecimalParts) : Prop where
  whole_ne_nil : p.whole ≠ []
  whole : ∀ c ∈ p.whole, c.isDigit = true
  fraction : ∀ fraction, p.fraction? = some fraction → ∀ c ∈ fraction, c.isDigit = true
  exponent : ∀ negative digits, p.exponent? = some (negative, digits) → ∀ c ∈ digits, c.isDigit = true

/-- Nor does a zero stand in front of other digits, a point or an exponent stand without digits, or the whole
number stand alone. -/
structure IsReal (p : DecimalParts) : Prop extends p.IsNumeral where
  leading : p.whole = ['0'] ∨ p.whole.head? ≠ some '0'
  fraction_ne_nil : p.fraction? ≠ some []
  exponent_ne_nil : ∀ negative, p.exponent? ≠ some (negative, [])
  not_alone : p.fraction? ≠ none ∨ p.exponent? ≠ none

theorem span_isDigit {a b : List Char} (ha : ∀ c ∈ a, c.isDigit = true)
    (hb : ∀ c, b.head? = some c → c.isDigit = false) :
    (a ++ b).takeWhile Char.isDigit = a ∧ (a ++ b).dropWhile Char.isDigit = b := by
  rw [List.takeWhile_append_of_pos ha, List.dropWhile_append_of_pos ha]
  cases b with
  | nil => exact ⟨List.append_nil a, rfl⟩
  | cons c b =>
    have hc : ¬ c.isDigit = true := by rw [hb c rfl]; exact Bool.false_ne_true
    rw [List.takeWhile_cons_of_neg hc, List.dropWhile_cons_of_neg hc, List.append_nil]
    exact ⟨rfl, rfl⟩

theorem exponentText_head (exponent? : Option (Bool × List Char)) :
    ∀ c, (exponentText exponent?).head? = some c → c.isDigit = false := by
  intro c hc
  cases exponent? with
  | none => cases hc
  | some exponent => cases hc; rfl

theorem pointText_head (fraction? : Option (List Char)) (exponent? : Option (Bool × List Char)) :
    ∀ c, (pointText fraction? ++ exponentText exponent?).head? = some c → c.isDigit = false := by
  intro c hc
  cases fraction? with
  | none => exact exponentText_head exponent? c hc
  | some fraction => cases hc; rfl

theorem IsNumeral.text_eq_cons {p : DecimalParts} (h : p.IsNumeral) : ∃ c cs, p.text = c :: cs ∧ c.isDigit = true := by
  obtain ⟨c, cs, hwhole⟩ := List.exists_cons_of_ne_nil h.whole_ne_nil
  refine ⟨c, cs ++ (pointText p.fraction? ++ exponentText p.exponent?), ?_, ?_⟩
  · rw [text, hwhole, List.cons_append]
  · exact h.whole c (hwhole ▸ List.mem_cons_self)

theorem IsNumeral.mem_text {p : DecimalParts} (h : p.IsNumeral) {c : Char} (hc : c ∈ p.text) :
    c.isDigit = true ∨ c ∈ ['.', 'e', '-', '+'] := by
  rcases List.mem_append.1 hc with hc | hc
  · exact .inl (h.whole c hc)
  rcases List.mem_append.1 hc with hc | hc
  · cases hfraction : p.fraction? with
    | none =>
      rw [hfraction] at hc
      cases hc
    | some fraction =>
      rw [hfraction] at hc
      rcases List.mem_cons.1 hc with rfl | hc
      · exact .inr (by decide)
      · exact .inl (h.fraction fraction hfraction c hc)
  · cases hexponent : p.exponent? with
    | none =>
      rw [hexponent] at hc
      cases hc
    | some exponent =>
      obtain ⟨negative, digits⟩ := exponent
      rw [hexponent] at hc
      rcases List.mem_cons.1 hc with rfl | hc
      · exact .inr (by decide)
      rcases List.mem_cons.1 hc with rfl | hc
      · exact .inr (by cases negative <;> decide)
      · exact .inl (h.exponent negative digits hexponent c hc)

theorem IsReal.exists_mem_text {p : DecimalParts} (h : p.IsReal) : '.' ∈ p.text ∨ 'e' ∈ p.text := by
  simp only [text, List.mem_append]
  rcases h.not_alone with hne | hne
  · obtain ⟨fraction, hfraction⟩ := Option.ne_none_iff_exists'.1 hne
    rw [hfraction]
    exact .inl (.inr (.inl List.mem_cons_self))
  · obtain ⟨exponent, hexponent⟩ := Option.ne_none_iff_exists'.1 hne
    rw [hexponent]
    exact .inr (.inr (.inr List.mem_cons_self))

end DecimalParts

namespace Binary64

def splitPoint (s : List Char) : List Char × List Char :=
  match s with
  | '.' :: rest => (rest.takeWhile Char.isDigit, rest.dropWhile Char.isDigit)
  | rest => ([], rest)

def readExponent? (s : List Char) : Option Int :=
  match s with
  | [] => some 0
  | 'e' :: '-' :: digits => if digits.all Char.isDigit then some (-(readDecimal digits : Int)) else none
  | 'e' :: '+' :: digits => if digits.all Char.isDigit then some (readDecimal digits) else none
  | 'e' :: digits => if digits.all Char.isDigit then some (readDecimal digits) else none
  | _ => none

/-- Reads the text of a number behind its sign. -/
def ofUnsignedText? (negative : Bool) (s : List Char) : Option Binary64 :=
  if s = ['n', 'a', 'n'] then some textNaN
  else if s = ['i', 'n', 'f'] then some (.infinite negative)
  else
    let whole := s.takeWhile Char.isDigit
    let (fraction, rest) := splitPoint (s.dropWhile Char.isDigit)
    if whole.isEmpty ∧ fraction.isEmpty then none
    else (readExponent? rest).map (ofDecimalText negative whole fraction)

theorem ofText?_minus (s : List Char) : ofText? ('-' :: s) = ofUnsignedText? true s := rfl

theorem ofText?_of_ne {c : Char} (hminus : c ≠ '-') (hplus : c ≠ '+') (s : List Char) :
    ofText? (c :: s) = ofUnsignedText? false (c :: s) := by
  unfold ofText?
  split
  next negative rest heq =>
  split at heq
  · next h => cases h; exact absurd rfl hminus
  · next h => cases h; exact absurd rfl hplus
  · cases heq; rfl

theorem splitPoint_text {p : DecimalParts} (h : p.IsNumeral) :
    splitPoint (DecimalParts.pointText p.fraction? ++ DecimalParts.exponentText p.exponent?) =
      (p.fraction?.getD [], DecimalParts.exponentText p.exponent?) := by
  cases hfraction : p.fraction? with
  | none => cases p.exponent? <;> rfl
  | some fraction =>
    obtain ⟨htake, hdrop⟩ :=
      DecimalParts.span_isDigit (h.fraction fraction hfraction) (DecimalParts.exponentText_head p.exponent?)
    exact Prod.ext htake hdrop

theorem readExponent?_text {p : DecimalParts} (h : p.IsNumeral) :
    readExponent? (DecimalParts.exponentText p.exponent?) = some (DecimalParts.exponentValue p.exponent?) := by
  cases hexponent : p.exponent? with
  | none => rfl
  | some exponent =>
    obtain ⟨negative, digits⟩ := exponent
    have hall : digits.all Char.isDigit = true := List.all_eq_true.2 (h.exponent negative digits hexponent)
    cases negative
    · exact if_pos hall
    · exact if_pos hall

/-- A text of this form is read as the number that its parts stand for. -/
theorem ofUnsignedText?_text {p : DecimalParts} (h : p.IsNumeral) (negative : Bool) :
    ofUnsignedText? negative p.text = some (p.value negative) := by
  obtain ⟨d, ds, htext, hd⟩ := h.text_eq_cons
  have hword {c : Char} {word : List Char} (hc : c.isDigit = false) : p.text ≠ c :: word := by
    rw [htext]
    rintro ⟨⟩
    rw [hd] at hc
    cases hc
  obtain ⟨htake, hdrop⟩ := DecimalParts.span_isDigit h.whole (DecimalParts.pointText_head p.fraction? p.exponent?)
  have hempty : ¬ (p.whole.isEmpty = true ∧ (p.fraction?.getD []).isEmpty = true) :=
    fun hnil => h.whole_ne_nil (List.isEmpty_iff.1 hnil.1)
  rw [ofUnsignedText?, if_neg (hword rfl), if_neg (hword rfl), DecimalParts.text]
  simp only [htake, hdrop, splitPoint_text h, readExponent?_text h, if_neg hempty]
  rfl

theorem ofText?_text {p : DecimalParts} (h : p.IsNumeral) (negative : Bool) :
    ofText? ((if negative then ['-'] else []) ++ p.text) = some (p.value negative) := by
  cases negative with
  | true => exact (ofText?_minus p.text).trans (ofUnsignedText?_text h true)
  | false =>
    obtain ⟨d, ds, htext, hd⟩ := h.text_eq_cons
    have hunsigned := ofUnsignedText?_text h false
    rw [htext] at hunsigned
    show ofText? p.text = _
    rw [htext, ofText?_of_ne, hunsigned]
    · rintro rfl
      cases hd
    · rintro rfl
      cases hd

theorem significantDigits_cases (n : Nat) (place : Int) :
    (∃ last, significantDigits n place = ([], last)) ∨
      ∃ c cs last, significantDigits n place = (c :: cs, last) ∧ c ≠ '0' ∧ ∀ d ∈ c :: cs, d.isDigit = true := by
  have hsuffix := (List.dropWhile_suffix (· == '0') (l := (decimalDigits n).reverse))
  have hstart : ((decimalDigits n).reverse.dropWhile (· == '0')).reverse <+: decimalDigits n := by
    rw [← List.reverse_suffix, List.reverse_reverse]
    exact hsuffix
  unfold significantDigits
  dsimp only
  cases hkept : ((decimalDigits n).reverse.dropWhile (· == '0')).reverse with
  | nil => exact .inl ⟨_, rfl⟩
  | cons c cs =>
    rw [hkept] at hstart
    refine .inr ⟨c, cs, _, rfl, ?_, fun d hd => isDigit_of_mem_decimalDigits (hstart.subset hd)⟩
    rcases decimalDigits_cases n with hdigits | ⟨d, ds, hdigits, hd⟩
    · rw [hdigits] at hkept
      cases hkept
    · rw [hdigits] at hstart
      rwa [(List.cons_prefix_cons.1 hstart).1]

end Binary64

namespace FloatLayout

theorem isDigit_of_mem_zeros {k : Nat} {c : Char} (h : c ∈ List.replicate k '0') : c.isDigit = true := by
  rw [(List.mem_replicate.1 h).2]
  rfl

theorem isDigit_of_mem_append {a b : List Char} (ha : ∀ c ∈ a, c.isDigit = true) (hb : ∀ c ∈ b, c.isDigit = true) :
    ∀ c ∈ a ++ b, c.isDigit = true := fun c hc => (List.mem_append.1 hc).elim (ha c) (hb c)

theorem isNumeral_of_point {whole fraction : List Char} (hne : whole ≠ []) (hwhole : ∀ c ∈ whole, c.isDigit = true)
    (hfraction : ∀ c ∈ fraction, c.isDigit = true) : DecimalParts.IsNumeral ⟨whole, some fraction, none⟩ where
  whole_ne_nil := hne
  whole := hwhole
  fraction _ heq := by cases heq; exact hfraction
  exponent _ _ heq := by cases heq

theorem isReal_of_point {whole fraction : List Char} (h : DecimalParts.IsNumeral ⟨whole, some fraction, none⟩)
    (hleading : whole = ['0'] ∨ whole.head? ≠ some '0') (hne : fraction ≠ []) :
    DecimalParts.IsReal ⟨whole, some fraction, none⟩ where
  toIsNumeral := h
  leading := hleading
  fraction_ne_nil heq := hne (Option.some.inj heq)
  exponent_ne_nil _ heq := by cases heq
  not_alone := .inl (Option.some_ne_none _)

/-- Digits without a point are laid out with one, unless they are too many or too far from it. -/
theorem positional_eq_text {c : Char} {cs : List Char} (hc : c ≠ '0') (hdigits : ∀ d ∈ c :: cs, d.isDigit = true)
    (point : Int) : ∃ p : DecimalParts, p.IsReal ∧ positional (c :: cs) point = p.text := by
  have hhead : some c ≠ some '0' := fun h => hc (Option.some.inj h)
  unfold positional
  split
  · refine ⟨⟨['0'], some (List.replicate (-point).toNat '0' ++ (c :: cs)), none⟩,
      isReal_of_point ?_ (.inl rfl) (by simp), ?_⟩
    · exact isNumeral_of_point (by simp) (fun _ => isDigit_of_mem_zeros (k := 1))
        (isDigit_of_mem_append (fun _ => isDigit_of_mem_zeros) hdigits)
    · simp [DecimalParts.text, DecimalParts.pointText, DecimalParts.exponentText]
  · dsimp only
    split
    · refine ⟨⟨c :: cs ++ List.replicate (point.toNat - (c :: cs).length) '0', some ['0'], none⟩,
        isReal_of_point ?_ (.inr hhead) (by simp), ?_⟩
      · exact isNumeral_of_point (by simp) (isDigit_of_mem_append hdigits fun _ => isDigit_of_mem_zeros)
          fun _ => isDigit_of_mem_zeros (k := 1)
      · simp [DecimalParts.text, DecimalParts.pointText, DecimalParts.exponentText]
    · next hpoint hlong =>
      obtain ⟨before, hbefore⟩ : ∃ before, point.toNat = before + 1 := ⟨point.toNat - 1, by omega⟩
      rw [hbefore] at hlong ⊢
      refine ⟨⟨(c :: cs).take (before + 1), some ((c :: cs).drop (before + 1)), none⟩,
        isReal_of_point ?_ (.inr hhead) ?_, ?_⟩
      · exact isNumeral_of_point (by simp) (fun d hd => hdigits d (List.mem_of_mem_take hd))
          fun d hd => hdigits d (List.mem_of_mem_drop hd)
      · rw [Ne, List.drop_eq_nil_iff]
        omega
      · simp [DecimalParts.text, DecimalParts.pointText, DecimalParts.exponentText]

theorem isReal_of_exponent {d : Char} (hd : d.isDigit = true) {fraction? : Option (List Char)}
    (hfraction : ∀ fraction, fraction? = some fraction → fraction ≠ [] ∧ ∀ c ∈ fraction, c.isDigit = true)
    {negative : Bool} {digits : List Char} (hne : digits ≠ []) (hdigits : ∀ c ∈ digits, c.isDigit = true) :
    DecimalParts.IsReal ⟨[d], fraction?, some (negative, digits)⟩ where
  whole_ne_nil := List.cons_ne_nil d []
  whole _ hc := by rwa [List.mem_singleton.1 hc]
  fraction fraction heq := (hfraction fraction heq).2
  exponent _ _ heq := by cases heq; exact hdigits
  leading := by
    by_cases h : d = '0'
    · exact .inl (h ▸ rfl)
    · exact .inr fun heq => h (Option.some.inj heq)
  fraction_ne_nil heq := (hfraction [] heq).1 rfl
  exponent_ne_nil _ heq := by cases heq; exact hne rfl
  not_alone := .inr (Option.some_ne_none _)

/-- The first digit stands before the point, and the exponent has digits. -/
theorem scientific_eq_text (layout : FloatLayout) {c : Char} {cs : List Char}
    (hdigits : ∀ d ∈ c :: cs, d.isDigit = true) (point : Int) :
    ∃ p : DecimalParts, p.IsReal ∧ layout.scientific (c :: cs) point = p.text := by
  rw [List.forall_mem_cons] at hdigits
  obtain ⟨padded, hpadded⟩ : ∃ padded, padded =
    List.replicate (layout.exponentDigits - (decimalDigits (point - 1).natAbs).length) '0' ++
      decimalDigits (point - 1).natAbs := ⟨_, rfl⟩
  have hne : padded ≠ [] := by simp [hpadded, decimalDigits_ne_nil]
  have hexponent : ∀ d ∈ padded, d.isDigit = true :=
    hpadded ▸ isDigit_of_mem_append (fun _ => isDigit_of_mem_zeros) fun _ => isDigit_of_mem_decimalDigits
  have hsign : (if point - 1 < 0 then '-' else '+') = if decide (point - 1 < 0) = true then '-' else '+' := by simp
  unfold scientific
  dsimp only
  rw [← hpadded, hsign]
  cases cs with
  | nil =>
    refine ⟨⟨[c], none, some (point - 1 < 0, padded)⟩, isReal_of_exponent hdigits.1 ?_ hne hexponent, rfl⟩
    intro fraction heq
    cases heq
  | cons d ds =>
    refine ⟨⟨[c], some (d :: ds), some (point - 1 < 0, padded)⟩,
      isReal_of_exponent hdigits.1 (fun fraction heq => ?_) hne hexponent, rfl⟩
    cases heq
    exact ⟨List.cons_ne_nil d ds, hdigits.2⟩

theorem place_eq_text (layout : FloatLayout) {c : Char} {cs : List Char} (hc : c ≠ '0')
    (hdigits : ∀ d ∈ c :: cs, d.isDigit = true) (point : Int) :
    ∃ p : DecimalParts, p.IsReal ∧ layout.place (c :: cs) point = p.text := by
  unfold place
  split
  · exact positional_eq_text hc hdigits point
  · exact scientific_eq_text layout hdigits point

theorem place_nil (layout : FloatLayout) (point : Int) :
    (∃ rest, layout.place [] point = 'e' :: rest) ∨
      ∃ a b, layout.place [] point = List.replicate (a + 1) '0' ++ '.' :: List.replicate b '0' := by
  unfold place
  split
  · refine .inr ?_
    unfold positional
    split
    · exact ⟨0, (-point).toNat, by simp⟩
    · next hpoint =>
      obtain ⟨a, ha⟩ : ∃ a, point.toNat = a + 1 := ⟨point.toNat - 1, by omega⟩
      exact ⟨a, 1, by simp [ha]⟩
  · exact .inl ⟨_, rfl⟩

end FloatLayout

namespace Binary64

def ReadsBack (x : Binary64) : Prop := ofText? x.text.toList = some x.asRead

theorem readDecimal_zeros (k : Nat) : readDecimal (List.replicate k '0') = 0 := by
  induction k with
  | zero => rfl
  | succ k ih => exact ih

/-- The text of a finite number without its sign. -/
def magnitudeText (exponent : Fin 2047) (fraction : Fin fractionCount) : List Char :=
  if significand exponent fraction = 0 then ['0', '.', '0']
  else
    let (n, last) := (RoundingInterval.ofFields exponent fraction).shortest
    let (digits, last) := significantDigits n last
    FloatLayout.shown.place digits (last + (digits.length : Int))

theorem toList_textIn_finite (negative : Bool) (exponent : Fin 2047) (fraction : Fin fractionCount) :
    ((finite negative exponent fraction).textIn .shown).toList =
      (if negative then ['-'] else []) ++ magnitudeText exponent fraction := by
  have hsign : (if negative then "-" else "").toList = if negative then ['-'] else [] := by cases negative <;> rfl
  rw [textIn, String.toList_append, hsign, String.toList_ofList]
  rfl

theorem magnitudeText_cases (exponent : Fin 2047) (fraction : Fin fractionCount) :
    (∃ p : DecimalParts, p.IsReal ∧ magnitudeText exponent fraction = p.text) ∨
      significand exponent fraction ≠ 0 ∧
        ((∃ rest, magnitudeText exponent fraction = 'e' :: rest) ∨
          ∃ a b, magnitudeText exponent fraction = List.replicate (a + 1) '0' ++ '.' :: List.replicate b '0') := by
  by_cases hzero : significand exponent fraction = 0
  · refine .inl ⟨⟨['0'], some ['0'], none⟩, ?_, if_pos hzero⟩
    have hzero : ∀ c ∈ ['0'], c.isDigit = true := fun _ => FloatLayout.isDigit_of_mem_zeros (k := 1)
    exact FloatLayout.isReal_of_point (FloatLayout.isNumeral_of_point (by simp) hzero hzero) (.inl rfl) (by simp)
  · rw [magnitudeText, if_neg hzero]
    obtain ⟨n, place⟩ := (RoundingInterval.ofFields exponent fraction).shortest
    dsimp only
    rcases significantDigits_cases n place with ⟨last, hdigits⟩ | ⟨c, cs, last, hdigits, hc, hall⟩
    · rw [hdigits]
      exact .inr ⟨hzero, FloatLayout.place_nil _ _⟩
    · rw [hdigits]
      exact .inl (FloatLayout.place_eq_text _ hc hall _)

theorem exists_parts_of_readsBack {negative : Bool} {exponent : Fin 2047} {fraction : Fin fractionCount}
    (h : (finite negative exponent fraction).ReadsBack) :
    ∃ p : DecimalParts, p.IsReal ∧ p.value negative = finite negative exponent fraction ∧
      ((finite negative exponent fraction).textIn .json).toList = (if negative then ['-'] else []) ++ p.text := by
  have htext := toList_textIn_finite negative exponent fraction
  have hread : ofText? ((if negative then ['-'] else []) ++ magnitudeText exponent fraction) =
      some (finite negative exponent fraction) := htext ▸ h
  rcases magnitudeText_cases exponent fraction with ⟨p, hp, hbody⟩ | ⟨hzero, ⟨rest, hbody⟩ | ⟨a, b, hbody⟩⟩
  · rw [hbody, ofText?_text hp.toIsNumeral] at hread
    exact ⟨p, hp, Option.some.inj hread, hbody ▸ htext⟩
  · -- an exponent without digits in front of it is no number
    rw [hbody] at hread
    cases negative <;> cases hread
  · -- zeros alone are read as zero
    have hp : DecimalParts.IsNumeral ⟨List.replicate (a + 1) '0', some (List.replicate b '0'), none⟩ :=
      FloatLayout.isNumeral_of_point (by simp) (fun _ => FloatLayout.isDigit_of_mem_zeros)
        fun _ => FloatLayout.isDigit_of_mem_zeros
    have hparts : magnitudeText exponent fraction =
        DecimalParts.text ⟨List.replicate (a + 1) '0', some (List.replicate b '0'), none⟩ := by
      simp [hbody, DecimalParts.text, DecimalParts.pointText, DecimalParts.exponentText]
    have hvalue : DecimalParts.value ⟨List.replicate (a + 1) '0', some (List.replicate b '0'), none⟩ negative =
        zero negative := by
      rw [DecimalParts.value, ofDecimalText, Option.getD_some, List.replicate_append_replicate, readDecimal_zeros,
        ofDecimal, if_pos (Or.inl rfl)]
    rw [hparts, ofText?_text hp, hvalue, zero, Option.some.injEq, finite.injEq] at hread
    obtain ⟨-, rfl, rfl⟩ := hread
    exact absurd rfl hzero

end Binary64
end DataShape
