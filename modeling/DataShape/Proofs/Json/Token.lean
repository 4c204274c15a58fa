import DataShape.Json.Token
import DataShape.Proofs.Number.Decimal
import Mathlib.Data.List.Find
import Mathlib.Data.List.TakeWhile

/-! The tokens of a JSON text, without their places. A token that is no string ends where a separator
follows, so a text that is one token stays one in front of whatever starts with a separator. -/

namespace DataShape.Json

/-- The tokens of a text of which the first characters belong to a token before it. -/
def tokensAfter (taken : Nat) (cs : List Char) : List Token := (lexemesAfter taken cs).map (·.token)

def tokens (cs : List Char) : List Token := tokensAfter 0 cs

theorem tokens_space {c : Char} {cs : List Char} (h : isSpace c = true) : tokens (c :: cs) = tokens cs := by
  simp only [tokens, tokensAfter, lexemesAfter, h, if_true]

theorem tokens_cons {c : Char} {cs : List Char} (h : isSpace c = false) :
    tokens (c :: cs) = (scan (c :: cs)).1 :: tokensAfter ((scan (c :: cs)).2 - 1) cs := by
  simp [tokens, tokensAfter, lexemesAfter, h]

theorem tokensAfter_append (cs rest : List Char) : tokensAfter cs.length (cs ++ rest) = tokens rest := by
  induction cs with
  | nil => rfl
  | cons c cs ih => exact ih

/-- Starts with what can follow a value in a written text or with a line end, if it is not empty. -/
def Delimited (cs : List Char) : Prop :=
  ∀ c, cs.head? = some c → c = ',' ∨ c = ']' ∨ c = '}' ∨ c = '\n' ∨ c = '\r'

variable {rest : List Char}

theorem delimited_nil : Delimited [] := fun _ h => by cases h

theorem Delimited.head {c : Char} (h : Delimited (c :: rest)) :
    c = ',' ∨ c = ']' ∨ c = '}' ∨ c = '\n' ∨ c = '\r' := h c rfl

theorem leadingDigits_of_delimited (h : Delimited rest) : leadingDigits rest = [] := by
  cases rest with
  | nil => rfl
  | cons c cs => rcases h.head with rfl | rfl | rfl | rfl | rfl <;> rfl

theorem leadingDigits_append (h : Delimited rest) (cs : List Char) :
    leadingDigits (cs ++ rest) = leadingDigits cs := by
  have hnone := leadingDigits_of_delimited h
  induction cs with
  | nil => exact hnone
  | cons c cs ih =>
    unfold leadingDigits at ih ⊢
    rw [List.cons_append, List.takeWhile_cons, List.takeWhile_cons, ih]

theorem wholeDigits_cons (c : Char) (cs : List Char) :
    wholeDigits (c :: cs) = if c = '0' then ['0'] else leadingDigits (c :: cs) := by
  unfold wholeDigits
  split
  · next heq => cases heq; rfl
  · next hother => rw [if_neg]; rintro rfl; exact hother cs rfl

theorem wholeDigits_append (h : Delimited rest) (cs : List Char) : wholeDigits (cs ++ rest) = wholeDigits cs := by
  cases cs with
  | nil =>
    cases rest with
    | nil => rfl
    | cons c rest => rcases h.head with rfl | rfl | rfl | rfl | rfl <;> rfl
  | cons c cs =>
    have hdigits := leadingDigits_append h (c :: cs)
    rw [List.cons_append] at hdigits ⊢
    rw [wholeDigits_cons, wholeDigits_cons, hdigits]

theorem fractionDigits_cons (c : Char) (cs : List Char) :
    fractionDigits (c :: cs) = if c = '.' then leadingDigits cs else [] := by
  unfold fractionDigits
  split
  · next heq => cases heq; rfl
  · next hother => rw [if_neg]; rintro rfl; exact hother cs rfl

theorem fractionDigits_append (h : Delimited rest) (cs : List Char) :
    fractionDigits (cs ++ rest) = fractionDigits cs := by
  cases cs with
  | nil =>
    cases rest with
    | nil => rfl
    | cons c rest => rcases h.head with rfl | rfl | rfl | rfl | rfl <;> rfl
  | cons c cs => rw [List.cons_append, fractionDigits_cons, fractionDigits_cons, leadingDigits_append h]

def exponentSign (cs : List Char) : Bool × Nat × List Char :=
  match cs with
  | '-' :: rest => (Bool.true, 1, rest)
  | '+' :: rest => (Bool.false, 1, rest)
  | rest => (Bool.false, 0, rest)

def exponentOf (negative : Bool) (signed : Nat) (cs : List Char) : Int × Nat :=
  let digits := leadingDigits cs
  if digits.isEmpty then (0, 0)
  else
    let size : Int := readDecimal digits
    (if negative then -size else size, 1 + signed + digits.length)

theorem scanExponent_cons (e : Char) (cs : List Char) :
    scanExponent (e :: cs) =
      if e = 'e' ∨ e = 'E' then
        exponentOf (exponentSign cs).1 (exponentSign cs).2.1 (exponentSign cs).2.2
      else (0, 0) := rfl

theorem exponentSign_cons (d : Char) (cs : List Char) :
    exponentSign (d :: cs) =
      if d = '-' then (Bool.true, 1, cs) else if d = '+' then (Bool.false, 1, cs) else (Bool.false, 0, d :: cs) := by
  unfold exponentSign
  split
  · next heq => cases heq; rfl
  · next heq => cases heq; rfl
  · next hminus hplus =>
    rw [if_neg, if_neg]
    · rintro rfl; exact hplus cs rfl
    · rintro rfl; exact hminus cs rfl

theorem exponentSign_append (h : Delimited rest) (cs : List Char) :
    exponentSign (cs ++ rest) = ((exponentSign cs).1, (exponentSign cs).2.1, (exponentSign cs).2.2 ++ rest) := by
  cases cs with
  | nil =>
    cases rest with
    | nil => rfl
    | cons c rest => rcases h.head with rfl | rfl | rfl | rfl | rfl <;> rfl
  | cons d cs =>
    rw [List.cons_append, exponentSign_cons, exponentSign_cons]
    split
    · rfl
    · split <;> rfl

theorem exponentOf_append (h : Delimited rest) (negative : Bool) (signed : Nat) (cs : List Char) :
    exponentOf negative signed (cs ++ rest) = exponentOf negative signed cs := by
  rw [exponentOf, leadingDigits_append h]
  rfl

theorem scanExponent_append (h : Delimited rest) (cs : List Char) :
    scanExponent (cs ++ rest) = scanExponent cs := by
  cases cs with
  | nil =>
    cases rest with
    | nil => rfl
    | cons c rest => rcases h.head with rfl | rfl | rfl | rfl | rfl <;> rfl
  | cons e cs => rw [List.cons_append, scanExponent_cons, exponentSign_append h, exponentOf_append h, scanExponent_cons]

theorem length_leadingDigits_le (cs : List Char) : (leadingDigits cs).length ≤ cs.length :=
  (List.takeWhile_sublist _).length_le

theorem length_wholeDigits_le (cs : List Char) : (wholeDigits cs).length ≤ cs.length := by
  unfold wholeDigits
  split
  · simp
  · exact length_leadingDigits_le cs

theorem length_fractionDigits_lt {cs : List Char} (h : fractionDigits cs ≠ []) :
    (fractionDigits cs).length < cs.length := by
  cases cs with
  | nil => exact absurd rfl h
  | cons c cs =>
    rw [fractionDigits_cons] at h ⊢
    split at h
    · next hc =>
      rw [if_pos hc]
      exact Nat.lt_succ_of_le (length_leadingDigits_le cs)
    · exact absurd rfl h

theorem length_exponentSign_le (cs : List Char) :
    (exponentSign cs).2.1 + (exponentSign cs).2.2.length ≤ cs.length := by
  unfold exponentSign
  split <;> simp <;> omega

theorem scanExponent_snd_le (cs : List Char) : (scanExponent cs).2 ≤ cs.length := by
  cases cs with
  | nil => exact Nat.le_refl 0
  | cons e cs =>
    have hsign := length_exponentSign_le cs
    have hdigits := length_leadingDigits_le (exponentSign cs).2.2
    rw [scanExponent_cons]
    split
    · unfold exponentOf
      dsimp only
      split
      · exact Nat.zero_le _
      · rw [List.length_cons]
        dsimp only
        omega
    · exact Nat.zero_le _

def mantissaLength (cs : List Char) : Nat :=
  let digits := wholeDigits cs
  let fraction := fractionDigits (cs.drop digits.length)
  digits.length + (if fraction.isEmpty then 0 else fraction.length + 1)

theorem mantissaLength_le (cs : List Char) : mantissaLength cs ≤ cs.length := by
  have hwhole := length_wholeDigits_le cs
  unfold mantissaLength
  dsimp only
  split
  · omega
  · next hempty =>
    have hfraction := length_fractionDigits_lt fun hnil => hempty (List.isEmpty_iff.2 hnil)
    rw [List.length_drop] at hfraction
    omega

theorem mantissaLength_append (h : Delimited rest) (cs : List Char) :
    mantissaLength (cs ++ rest) = mantissaLength cs := by
  simp only [mantissaLength, wholeDigits_append h, List.drop_append_of_le_length (length_wholeDigits_le cs),
    fractionDigits_append h]

theorem scanNumber_eq (negative : Bool) (cs : List Char) :
    scanNumber negative cs =
      if (wholeDigits cs).isEmpty then none
      else if (fractionDigits (cs.drop (wholeDigits cs).length)).isEmpty &&
          (scanExponent (cs.drop (mantissaLength cs))).2 = 0 then
        some (.whole negative (wholeDigits cs), mantissaLength cs)
      else
        some (.real (.ofDecimalText negative (wholeDigits cs) (fractionDigits (cs.drop (wholeDigits cs).length))
          (scanExponent (cs.drop (mantissaLength cs))).1),
          mantissaLength cs + (scanExponent (cs.drop (mantissaLength cs))).2) := rfl

theorem scanNumber_append (h : Delimited rest) (negative : Bool) (cs : List Char) :
    scanNumber negative (cs ++ rest) = scanNumber negative cs := by
  rw [scanNumber_eq, scanNumber_eq, wholeDigits_append h, mantissaLength_append h,
    List.drop_append_of_le_length (length_wholeDigits_le cs), fractionDigits_append h,
    List.drop_append_of_le_length (mantissaLength_le cs), scanExponent_append h]

theorem length_le_of_scanNumber {negative : Bool} {cs : List Char} {token : Token} {length : Nat}
    (h : scanNumber negative cs = some (token, length)) : length ≤ cs.length := by
  have hmantissa := mantissaLength_le cs
  have hexponent := scanExponent_snd_le (cs.drop (mantissaLength cs))
  rw [List.length_drop] at hexponent
  rw [scanNumber_eq] at h
  split at h
  · cases h
  · split at h
    · cases h
      exact hmantissa
    · cases h
      omega

/-- The token at the front of a text that starts with no bracket, separator or quote. -/
def scanPlain (cs : List Char) : Token × Nat :=
  match words.find? fun word => word.1.isPrefixOf cs with
  | some (word, token) => (token, word.length)
  | none =>
    match cs with
    | '-' :: rest =>
      match scanNumber Bool.true rest with
      | some (token, length) => (token, length + 1)
      | none => (.stray, 1)
    | _ => (scanNumber Bool.false cs).getD (.stray, 1)

def Token.IsPlain : Token → Prop
  | .whole _ _ | .real _ | .true | .false | .null => True
  | _ => False

theorem not_isPlain_scanString (cs : List Char) : ¬ (scanString cs).1.IsPlain := by
  unfold scanString
  split <;> exact id

theorem scan_of_isPlain {c : Char} {cs : List Char} (h : (scan (c :: cs)).1.IsPlain) (more : List Char) :
    scan (c :: more) = scanPlain (c :: more) := by
  unfold scan
  split
  case h_1 heq | h_2 heq | h_3 heq | h_4 heq | h_5 heq | h_6 heq => cases heq; exact h.elim
  case h_7 heq => cases heq; exact (not_isPlain_scanString _ h).elim
  case h_8 => rfl

theorem scanPlain_cons (c : Char) (cs : List Char) :
    scanPlain (c :: cs) =
      match words.find? fun word => word.1.isPrefixOf (c :: cs) with
      | some (word, token) => (token, word.length)
      | none =>
        if c = '-' then ((scanNumber Bool.true cs).map fun (token, length) => (token, length + 1)).getD (.stray, 1)
        else (scanNumber Bool.false (c :: cs)).getD (.stray, 1) := by
  unfold scanPlain
  split
  · rfl
  · split
    · next heq =>
      cases heq
      cases scanNumber Bool.true cs <;> rfl
    · next hother =>
      rw [if_neg]
      rintro rfl
      exact hother cs rfl

theorem isPrefixOf_append (h : Delimited rest) {word : List Char}
    (hword : ∀ c ∈ word, c ≠ ',' ∧ c ≠ ']' ∧ c ≠ '}' ∧ c ≠ '\n' ∧ c ≠ '\r') (cs : List Char) :
    word.isPrefixOf (cs ++ rest) = word.isPrefixOf cs := by
  induction word generalizing cs with
  | nil => simp
  | cons w word ih =>
    rw [List.forall_mem_cons] at hword
    cases cs with
    | nil =>
      cases rest with
      | nil => rfl
      | cons c rest =>
        have hne : (w == c) = false := by
          rw [beq_eq_false_iff_ne]
          rcases h.head with rfl | rfl | rfl | rfl | rfl
          · exact hword.1.1
          · exact hword.1.2.1
          · exact hword.1.2.2.1
          · exact hword.1.2.2.2.1
          · exact hword.1.2.2.2.2
        simp only [List.nil_append, List.isPrefixOf, hne, Bool.false_and]
    | cons c cs => rw [List.cons_append, List.isPrefixOf, List.isPrefixOf, ih hword.2]

theorem scanPlain_append (h : Delimited rest) (c : Char) (cs : List Char) :
    scanPlain (c :: (cs ++ rest)) = scanPlain (c :: cs) := by
  have hwords : (words.find? fun word => word.1.isPrefixOf (c :: (cs ++ rest))) =
      words.find? fun word => word.1.isPrefixOf (c :: cs) := by
    have hseparators : ∀ word ∈ words,
        word.1.all (fun c => decide (c ≠ ',' ∧ c ≠ ']' ∧ c ≠ '}' ∧ c ≠ '\n' ∧ c ≠ '\r')) = true := by decide
    refine List.find?_congr fun word hword => isPrefixOf_append h (fun d hd => ?_) (c :: cs)
    exact of_decide_eq_true (List.all_eq_true.1 (hseparators word hword) d hd)
  have hnumber := scanNumber_append h Bool.false (c :: cs)
  rw [List.cons_append] at hnumber
  rw [scanPlain_cons, scanPlain_cons, hwords, hnumber, scanNumber_append h]

theorem scanPlain_snd_le (c : Char) (cs : List Char) : (scanPlain (c :: cs)).2 ≤ cs.length + 1 := by
  rw [scanPlain_cons]
  split
  · next word token hword =>
    have hfound := List.find?_some hword
    exact (List.isPrefixOf_iff_prefix.1 hfound).length_le
  · split
    · cases hnumber : scanNumber Bool.true cs with
      | none => exact Nat.le_add_left 1 _
      | some found => exact Nat.succ_le_succ (length_le_of_scanNumber hnumber)
    · cases hnumber : scanNumber Bool.false (c :: cs) with
      | none => exact Nat.le_add_left 1 _
      | some found => exact length_le_of_scanNumber hnumber

theorem tokensAfter_append_of_nil {taken : Nat} {cs : List Char} (h : tokensAfter taken cs = [])
    (htaken : taken ≤ cs.length) (rest : List Char) : tokensAfter taken (cs ++ rest) = tokens rest := by
  induction cs generalizing taken with
  | nil =>
    obtain rfl := Nat.le_zero.1 htaken
    rfl
  | cons c cs ih =>
    cases taken with
    | zero =>
      cases hspace : isSpace c with
      | true =>
        have hnil : tokensAfter 0 cs = [] := (tokens_space hspace).symm.trans h
        exact (tokens_space hspace).trans (ih hnil (Nat.zero_le _))
      | false =>
        have hcons : tokens (c :: cs) = _ := tokens_cons hspace
        rw [tokens, h] at hcons
        cases hcons
    | succ left => exact ih h (Nat.le_of_succ_le_succ htaken)

/-- A text that is one token, and no string, is the same token in front of a separator. -/
theorem tokens_append_of_single {cs : List Char} {token : Token} (h : tokens cs = [token])
    (htoken : token.IsPlain) (hrest : Delimited rest) : tokens (cs ++ rest) = token :: tokens rest := by
  induction cs with
  | nil => cases h
  | cons c cs ih =>
    cases hspace : isSpace c with
    | true =>
      rw [tokens_space hspace] at h
      rw [List.cons_append, tokens_space hspace]
      exact ih h
    | false =>
      rw [tokens_cons hspace] at h
      obtain ⟨rfl, hnil⟩ := List.cons.inj h
      rw [List.cons_append, tokens_cons hspace, scan_of_isPlain htoken, scanPlain_append hrest,
        ← scan_of_isPlain htoken]
      refine congrArg _ (tokensAfter_append_of_nil hnil ?_ rest)
      have hlength := scanPlain_snd_le c cs
      rw [← scan_of_isPlain htoken] at hlength
      exact Nat.sub_le_of_le_add hlength

theorem wholeDigits_decimalDigits (n : Nat) : wholeDigits (decimalDigits n) = decimalDigits n := by
  rcases decimalDigits_cases n with hdigits | ⟨c, cs, hdigits, hc⟩
  · rw [hdigits]
    rfl
  · have hall : leadingDigits (decimalDigits n) = decimalDigits n :=
      List.takeWhile_eq_self_iff.2 fun d => isDigit_of_mem_decimalDigits
    rw [hdigits] at hall ⊢
    rw [wholeDigits_cons, if_neg hc, hall]

theorem scanNumber_decimalDigits (negative : Bool) (n : Nat) :
    scanNumber negative (decimalDigits n) =
      some (.whole negative (decimalDigits n), (decimalDigits n).length) := by
  have hmantissa : mantissaLength (decimalDigits n) = (decimalDigits n).length := by
    simp [mantissaLength, wholeDigits_decimalDigits, fractionDigits]
  rw [scanNumber_eq, wholeDigits_decimalDigits, hmantissa, List.drop_length,
    if_neg (by simp [decimalDigits_ne_nil])]
  rfl

theorem find?_words_eq_none {c : Char} (hc : c.isDigit = true) (cs : List Char) :
    (words.find? fun word => word.1.isPrefixOf (c :: cs)) = none ∧
      (words.find? fun word => word.1.isPrefixOf ('-' :: c :: cs)) = none := by
  have hstart (word : List Char) (hword : word.any Char.isDigit = false) (hne : word ≠ []) :
      word.isPrefixOf (c :: cs) = false := by
    cases word with
    | nil => exact absurd rfl hne
    | cons w word =>
      rw [List.any_cons, Bool.or_eq_false_iff] at hword
      have hwc : (w == c) = false := by
        rw [beq_eq_false_iff_ne]
        rintro rfl
        rw [hc] at hword
        cases hword.1
      rw [List.isPrefixOf, hwc, Bool.false_and]
  have hwords : ∀ word ∈ words, word.1.any Char.isDigit = false ∧ word.1 ≠ [] ∧ word.1.drop 1 ≠ [] := by decide
  constructor
  · refine List.find?_eq_none.2 fun word hword => ?_
    rw [hstart word.1 (hwords word hword).1 (hwords word hword).2.1]
    exact Bool.false_ne_true
  · refine List.find?_eq_none.2 fun word hword => ?_
    obtain ⟨hdigits, hne, hlong⟩ := hwords word hword
    obtain ⟨w, rest, heq⟩ := List.exists_cons_of_ne_nil hne
    rw [heq, List.any_cons, Bool.or_eq_false_iff] at hdigits
    rw [heq] at hlong ⊢
    rw [List.isPrefixOf, hstart rest hdigits.2 hlong, Bool.and_false]
    exact Bool.false_ne_true

theorem scan_of_isDigit {c : Char} (hc : c.isDigit = true) (cs : List Char) : scan (c :: cs) = scanPlain (c :: cs) := by
  unfold scan
  split
  case h_8 => rfl
  all_goals
    next heq =>
      cases heq
      cases hc

theorem isSpace_of_isDigit {c : Char} (hc : c.isDigit = true) : isSpace c = false := by
  cases hspace : isSpace c with
  | false => rfl
  | true =>
    simp only [isSpace, Bool.or_eq_true, decide_eq_true_eq] at hspace
    rcases hspace with ((rfl | rfl) | rfl) | rfl <;> cases hc

/-- A number that is scanned to its end is one token, with or without a sign in front. -/
theorem tokens_of_scanNumber {negative : Bool} {c : Char} {cs : List Char} {token : Token} (hc : c.isDigit = true)
    (h : scanNumber negative (c :: cs) = some (token, (c :: cs).length)) :
    tokens ((if negative then ['-'] else []) ++ c :: cs) = [token] := by
  cases negative with
  | true =>
    have hskip := tokensAfter_append (c :: cs) []
    rw [List.append_nil] at hskip
    have hscan : scan ('-' :: c :: cs) = scanPlain ('-' :: c :: cs) := rfl
    show tokens ('-' :: c :: cs) = _
    rw [tokens_cons (by decide), hscan, scanPlain_cons, (find?_words_eq_none hc cs).2]
    dsimp only
    rw [if_pos rfl, h]
    exact congrArg _ hskip
  | false =>
    have hsign : c ≠ '-' := by
      rintro rfl
      cases hc
    have hskip := tokensAfter_append cs []
    rw [List.append_nil] at hskip
    show tokens (c :: cs) = _
    rw [tokens_cons (isSpace_of_isDigit hc), scan_of_isDigit hc, scanPlain_cons, (find?_words_eq_none hc cs).1]
    dsimp only
    rw [if_neg hsign, h]
    exact congrArg _ hskip

theorem tokens_decimalDigits (negative : Bool) (n : Nat) :
    tokens ((if negative then ['-'] else []) ++ decimalDigits n) = [.whole negative (decimalDigits n)] := by
  have hnumber := scanNumber_decimalDigits negative n
  obtain ⟨c, cs, hdigits⟩ := List.exists_cons_of_ne_nil (decimalDigits_ne_nil n)
  have hc : c.isDigit = true := isDigit_of_mem_decimalDigits (hdigits ▸ List.mem_cons_self)
  rw [hdigits] at hnumber ⊢
  exact tokens_of_scanNumber hc hnumber

end DataShape.Json
