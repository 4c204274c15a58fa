import DataShape.Json.Writer
import DataShape.Proofs.Json.Token

/-! Strings as they are written: every character is read back from its own escape, so a string is one token,
whatever follows it. -/

namespace DataShape.Json

theorem isHighHalf_toNat (c : Char) : isHighHalf c.toNat = false := by
  have hvalid : c.toNat < 0xd800 ∨ (0xdfff < c.toNat ∧ c.toNat < 0x110000) := c.valid
  unfold isHighHalf
  rw [Bool.and_eq_false_iff, decide_eq_false_iff_not, decide_eq_false_iff_not]
  omega

theorem joinPairs_map_toNat (cs : List Char) : joinPairs (cs.map Char.toNat) = cs := by
  induction cs with
  | nil => rfl
  | cons c cs ih =>
    cases cs with
    | nil => exact congrArg (· :: []) (charOfCode_toNat c)
    | cons d cs =>
      rw [List.map_cons] at ih ⊢
      rw [List.map_cons, joinPairs, isHighHalf_toNat, Bool.false_and, charOfCode_toNat, ih]
      rfl

theorem codeUnit?_hexDigits : ∀ n < 0x20, hexDigits 4 n = ['0', '0', (n / 16).digitChar, (n % 16).digitChar] ∧
    codeUnit? '0' '0' (n / 16).digitChar (n % 16).digitChar = some n := by
  decide

theorem escape_cases (c : Char) :
    (∃ letter, escape c = ['\\', letter] ∧ letter ≠ 'u' ∧ shortEscape? letter = some c) ∨
    (c.toNat < 0x20 ∧ escape c = '\\' :: 'u' :: hexDigits 4 c.toNat) ∨
    (escape c = [c] ∧ c ≠ '"' ∧ c ≠ '\\' ∧ ¬ c.toNat < 0x20) := by
  unfold escape
  split
  · next h => exact .inl ⟨c, rfl, by rcases h with rfl | rfl <;> decide, by rcases h with rfl | rfl <;> rfl⟩
  · next hplain =>
    rw [not_or] at hplain
    iterate 5
      split
      · next h => subst h; exact .inl ⟨_, rfl, by decide, rfl⟩
    split
    · next hcontrol => exact .inr (.inl ⟨hcontrol, rfl⟩)
    · next hcontrol => exact .inr (.inr ⟨rfl, hplain.1, hplain.2, hcontrol⟩)

/-- A character is read back from its escape, whatever follows before the closing quote. -/
theorem inside_escape (c : Char) {more : List Char} (hmore : more ≠ []) :
    inside (escape c ++ more) = .cons c.toNat (escape c).length (inside more) := by
  obtain ⟨next, rest, rfl⟩ := List.exists_cons_of_ne_nil hmore
  obtain ⟨letter, hescape, hletter, hshort⟩ | ⟨hcontrol, hescape⟩ | ⟨hescape, hquote, hbackslash, hplain⟩ :=
    escape_cases c
  · rw [hescape]
    simp only [List.cons_append, List.nil_append]
    rw [inside]
    · rw [hshort]
      rfl
    · exact fun _ _ _ _ _ _ h _ => hletter h
    · exact hletter
  · obtain ⟨hdigits, hunit⟩ := codeUnit?_hexDigits c.toNat hcontrol
    rw [hescape, hdigits]
    simp only [List.cons_append, List.nil_append, inside, hunit]
    rfl
  · rw [hescape]
    simp only [List.cons_append, List.nil_append]
    rw [inside]
    · rw [if_neg hplain]
      rfl
    all_goals simp [hquote, hbackslash]

theorem inside_flatMap_escape (cs rest : List Char) :
    inside (cs.flatMap escape ++ '"' :: rest) = .ok (cs.map Char.toNat, (cs.flatMap escape).length + 1) := by
  induction cs with
  | nil => rfl
  | cons c cs ih =>
    rw [List.flatMap_cons, List.append_assoc, inside_escape c (by simp), ih, List.length_append]
    simp only [Inside.cons, Except.map, List.map_cons]
    congr 2
    omega

theorem toList_stringText (s : String) : (stringText s).toList = '"' :: (s.toList.flatMap escape ++ ['"']) := by
  rw [stringText, String.toList_ofList]

theorem tokens_stringText (s : String) (rest : List Char) :
    tokens ((stringText s).toList ++ rest) = .string s :: tokens rest := by
  have hinside := inside_flatMap_escape s.toList rest
  have htext : (stringText s).toList ++ rest = '"' :: (s.toList.flatMap escape ++ '"' :: rest) := by
    rw [toList_stringText, List.cons_append, List.append_assoc]
    rfl
  have hscan : scan ('"' :: (s.toList.flatMap escape ++ '"' :: rest)) =
      (.string s, (s.toList.flatMap escape).length + 2) := by
    show scanString _ = _
    rw [scanString, List.drop_one, List.tail_cons, hinside]
    dsimp only
    rw [joinPairs_map_toNat, String.ofList_toList]
  have hskip := tokensAfter_append (s.toList.flatMap escape ++ ['"']) rest
  rw [List.append_assoc, List.length_append] at hskip
  rw [htext, tokens_cons (by decide), hscan]
  exact congrArg _ hskip

end DataShape.Json
