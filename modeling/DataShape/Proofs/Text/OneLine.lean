import DataShape.Number.DecimalNumber
import DataShape.Number.FloatText
import DataShape.Proofs.Number.Decimal
import DataShape.Text.Quoted
import Mathlib.Data.String.Basic

/-! Texts without a line end, and the lines of those that have some. Numbers are written in one line, and so is
whatever is quoted. -/

namespace DataShape

def IsOneLine (s : String) : Prop := '\n' ∉ s.toList

instance : DecidablePred IsOneLine := fun s => inferInstanceAs (Decidable ('\n' ∉ s.toList))

@[simp] theorem isOneLine_append {a b : String} : IsOneLine (a ++ b) ↔ IsOneLine a ∧ IsOneLine b := by
  simp [IsOneLine]

theorem IsOneLine.append {a b : String} (ha : IsOneLine a) (hb : IsOneLine b) : IsOneLine (a ++ b) :=
  isOneLine_append.2 ⟨ha, hb⟩

@[simp] theorem isOneLine_ofList {cs : List Char} : IsOneLine (String.ofList cs) ↔ '\n' ∉ cs := by
  rw [IsOneLine, String.toList_ofList]

theorem isOneLine_intercalate {separator : String} (hseparator : IsOneLine separator) {parts : List String}
    (h : ∀ part ∈ parts, IsOneLine part) : IsOneLine (separator.intercalate parts) := by
  induction parts with
  | nil => exact List.not_mem_nil
  | cons first rest ih =>
    rw [List.forall_mem_cons] at h
    cases rest with
    | nil =>
      rw [String.intercalate_singleton]
      exact h.1
    | cons second rest =>
      rw [String.intercalate_cons_cons, isOneLine_append, isOneLine_append]
      exact ⟨⟨h.1, hseparator⟩, ih h.2⟩

/-- The lines of a text, between its line ends. -/
def textLines (s : String) : List String := (s.toList.splitOn '\n').map String.ofList

theorem textLines_of_isOneLine {s : String} (h : IsOneLine s) : textLines s = [s] := by
  rw [textLines, List.splitOn_eq_singleton h, List.map_singleton, String.ofList_toList]

theorem length_textLines (s : String) : (textLines s).length = s.toList.count '\n' + 1 := by
  rw [textLines, List.length_map, List.splitOn_eq_splitOnP]
  induction s.toList with
  | nil => rfl
  | cons c cs ih =>
    rw [List.splitOnP_cons_eq_if_modifyHead, List.count_cons]
    split
    · rw [List.length_cons, ih]
    · rw [List.length_modifyHead, ih]

theorem textLines_append_newline (a b : String) : textLines (a ++ "\n" ++ b) = textLines a ++ textLines b := by
  have hchars : (a ++ "\n" ++ b).toList = a.toList ++ '\n' :: b.toList := by simp
  rw [textLines, hchars, List.splitOn_append_cons_self, List.map_append]
  rfl

theorem textLines_intercalate {parts : List String} (h : parts ≠ []) :
    textLines ("\n".intercalate parts) = parts.flatMap textLines := by
  induction parts with
  | nil => exact absurd rfl h
  | cons first rest ih =>
    cases rest with
    | nil => rw [String.intercalate_singleton, List.flatMap_singleton]
    | cons second rest =>
      rw [String.intercalate_cons_cons, textLines_append_newline, ih (List.cons_ne_nil _ _)]
      rfl

theorem newline_not_mem_of_isDigit {cs : List Char} (h : ∀ c ∈ cs, c.isDigit = true) : '\n' ∉ cs := by
  intro hmem
  cases h '\n' hmem

theorem newline_not_mem_decimalDigits (n : Nat) : '\n' ∉ decimalDigits n :=
  newline_not_mem_of_isDigit fun _ => isDigit_of_mem_decimalDigits

theorem isOneLine_natText (n : Nat) : IsOneLine (natText n) :=
  isOneLine_ofList.2 (newline_not_mem_decimalDigits n)

theorem isOneLine_intText (n : Int) : IsOneLine (intText n) := by
  unfold intText
  split
  · rw [isOneLine_append]
    exact ⟨by decide, isOneLine_natText _⟩
  · exact isOneLine_natText _

theorem newline_not_mem_toDigits (base n : Nat) : '\n' ∉ Nat.toDigits base n := by
  have hcore (fuel n : Nat) (cs : List Char) (hcs : '\n' ∉ cs) : '\n' ∉ Nat.toDigitsCore base fuel n cs := by
    induction fuel generalizing n cs with
    | zero => exact hcs
    | succ fuel ih =>
      have hdigit : '\n' ∉ (n % base).digitChar :: cs := by
        rw [List.mem_cons, not_or]
        exact ⟨(Nat.digitChar_ne '\n' (by decide)).symm, hcs⟩
      unfold Nat.toDigitsCore
      dsimp only
      split
      · exact hdigit
      · exact ih _ _ hdigit
  exact hcore _ n [] List.not_mem_nil

theorem newline_not_mem_hexDigits (width n : Nat) : '\n' ∉ hexDigits width n := by
  unfold hexDigits
  rw [List.mem_append, not_or]
  constructor
  · intro hmem
    cases (List.mem_replicate.1 hmem).2
  · exact newline_not_mem_toDigits 16 n

namespace Quoted

theorem quoteFor_ne_newline (cs : List Char) : '\n' ≠ quoteFor cs := by
  unfold quoteFor
  split <;> decide

theorem newline_not_mem_numericEscape (code : Nat) : '\n' ∉ numericEscape code := by
  unfold numericEscape
  split
  · simp [newline_not_mem_hexDigits]
  · split <;> simp [newline_not_mem_hexDigits]

theorem newline_not_mem_escape {quote : Char} (hquote : '\n' ≠ quote) (c : Char) : '\n' ∉ escape quote c := by
  unfold escape
  split
  · next hc =>
    rcases hc with rfl | rfl
    · simpa using hquote
    · decide
  · split
    · decide
    · next hnewline =>
      split
      · decide
      · split
        · decide
        · split
          · simpa using Ne.symm hnewline
          · exact newline_not_mem_numericEscape _

theorem newline_not_mem_chars (cs : List Char) : '\n' ∉ chars cs := by
  have hquote := quoteFor_ne_newline cs
  simp [chars, hquote, newline_not_mem_escape hquote]

theorem newline_not_mem_escapeByte {quote : Char} (hquote : '\n' ≠ quote) (b : UInt8) :
    '\n' ∉ escapeByte quote b := by
  unfold escapeByte
  dsimp only
  split
  · next hc =>
    rcases hc with hc | hc
    · rw [hc]
      simpa using hquote
    · rw [hc]
      decide
  · split
    · decide
    · next hnewline =>
      split
      · decide
      · split
        · decide
        · split
          · simpa using Ne.symm hnewline
          · simp [newline_not_mem_hexDigits]

theorem newline_not_mem_bytes (bs : List UInt8) : '\n' ∉ bytes bs := by
  have hquote := quoteFor_ne_newline (bs.map fun b => Char.ofNat b.toNat)
  simp [bytes, hquote, newline_not_mem_escapeByte hquote]

end Quoted

theorem isOneLine_quoted (s : String) : IsOneLine (quoted s) := isOneLine_ofList.2 (Quoted.newline_not_mem_chars _)

theorem isOneLine_quotedBytes (bs : List UInt8) : IsOneLine (quotedBytes bs) :=
  isOneLine_ofList.2 (Quoted.newline_not_mem_bytes bs)

theorem newline_not_mem_zeros (n : Nat) : '\n' ∉ List.replicate n '0' := by
  intro hmem
  cases (List.mem_replicate.1 hmem).2

section Layout

variable {digits : List Char}

theorem newline_not_mem_positional (h : '\n' ∉ digits) (point : Int) : '\n' ∉ FloatLayout.positional digits point := by
  have htake (n : Nat) : '\n' ∉ digits.take n := fun hmem => h (List.mem_of_mem_take hmem)
  have hdrop (n : Nat) : '\n' ∉ digits.drop n := fun hmem => h (List.mem_of_mem_drop hmem)
  unfold FloatLayout.positional
  split
  · simp [h]
  · dsimp only
    split
    · simp [h]
    · simp [htake, hdrop]

theorem newline_not_mem_scientific (layout : FloatLayout) (h : '\n' ∉ digits) (point : Int) :
    '\n' ∉ layout.scientific digits point := by
  unfold FloatLayout.scientific
  dsimp only
  rw [List.mem_append, List.mem_cons, List.mem_cons, List.mem_append]
  simp only [not_or]
  refine ⟨?_, by decide, by split <;> decide, newline_not_mem_zeros _, newline_not_mem_decimalDigits _⟩
  split
  · exact h
  · exact h
  · simpa using h

theorem newline_not_mem_place (layout : FloatLayout) (h : '\n' ∉ digits) (point : Int) :
    '\n' ∉ layout.place digits point := by
  unfold FloatLayout.place
  split
  · exact newline_not_mem_positional h point
  · exact newline_not_mem_scientific layout h point

end Layout

theorem newline_not_mem_significantDigits (n : Nat) (place : Int) : '\n' ∉ (Binary64.significantDigits n place).1 := by
  intro hmem
  have hkept := List.mem_reverse.1 hmem
  have hdigits := (List.dropWhile_sublist _).subset hkept
  exact newline_not_mem_decimalDigits n (List.mem_reverse.1 hdigits)

theorem isOneLine_binaryText (x : Binary64) : IsOneLine x.text := by
  cases x with
  | nan object =>
    show IsOneLine "nan"
    decide
  | infinite negative => cases negative <;> decide
  | finite negative exponent fraction =>
    unfold Binary64.text Binary64.textIn
    dsimp only
    rw [isOneLine_append, isOneLine_ofList]
    constructor
    · split <;> decide
    · split
      · decide
      · exact newline_not_mem_place _ (newline_not_mem_significantDigits _ _) _

/-- What is no number carries no line end with it. -/
def DecimalNumber.HasOneLinePayload : DecimalNumber → Prop
  | .nan _ _ payload _ => '\n' ∉ payload
  | _ => True

theorem newline_not_mem_magnitudeText (digits : Nat) (scale : Int) :
    '\n' ∉ DecimalNumber.magnitudeText digits scale := by
  have hdigits := newline_not_mem_decimalDigits
  have htake (n : Nat) : '\n' ∉ (decimalDigits digits).take n := fun hmem => hdigits _ (List.mem_of_mem_take hmem)
  have hdrop (n : Nat) : '\n' ∉ (decimalDigits digits).drop n := fun hmem => hdigits _ (List.mem_of_mem_drop hmem)
  unfold DecimalNumber.magnitudeText
  dsimp only
  generalize (if scale ≤ 0 ∧ -6 < scale + ((decimalDigits digits).length : Int) then
    scale + ((decimalDigits digits).length : Int) else 1) = point
  have hbody : '\n' ∉ (if point ≤ 0 then '0' :: '.' :: (List.replicate (-point).toNat '0' ++ decimalDigits digits)
      else if ((decimalDigits digits).length : Int) ≤ point then
        decimalDigits digits ++ List.replicate (point.toNat - (decimalDigits digits).length) '0'
      else (decimalDigits digits).take point.toNat ++ '.' :: (decimalDigits digits).drop point.toNat) := by
    split
    · simp [hdigits]
    · split
      · simp [hdigits]
      · simp [htake, hdrop]
  split
  · exact hbody
  · rw [List.mem_append, List.mem_cons, List.mem_cons]
    simp only [not_or]
    exact ⟨hbody, by decide, by split <;> decide, hdigits _⟩

theorem isOneLine_decimalText {d : DecimalNumber} (h : d.HasOneLinePayload) : IsOneLine d.text := by
  cases d with
  | finite negative digits scale =>
    unfold DecimalNumber.text
    rw [isOneLine_append, isOneLine_ofList]
    exact ⟨by split <;> decide, newline_not_mem_magnitudeText digits scale⟩
  | infinite negative => cases negative <;> decide
  | nan negative signals payload object =>
    unfold DecimalNumber.text
    rw [isOneLine_append, isOneLine_append, isOneLine_ofList]
    exact ⟨⟨by split <;> decide, by split <;> decide⟩, h⟩

end DataShape
