import DataShape.Proofs.Json.Reader

/-! Texts read with line ends of one kind and with all kinds. A line end stands between tokens, or it breaks the
string that it stands in, so the value is the same, and so is a number that is too long for one. -/

namespace DataShape.Json

/-- A text in which some characters that are no line ends stand in front, before its line ends were made one. -/
theorem exists_of_unifyNewLines_eq {a b cs : List Char} (ha : '\n' ∉ a) (h : unifyNewLines cs = a ++ b) :
    ∃ rest, cs = a ++ rest ∧ unifyNewLines rest = b := by
  induction a generalizing cs with
  | nil => exact ⟨cs, rfl, h⟩
  | cons x a ih =>
    rw [List.mem_cons, not_or] at ha
    cases cs with
    | nil => cases h
    | cons c cs =>
      by_cases hc : c = '\r'
      · subst hc
        obtain ⟨rest, hrest, -⟩ := unifyNewLines_return cs
        rw [hrest] at h
        exact absurd (List.cons.inj h).1 ha.1
      · rw [unifyNewLines_cons hc] at h
        obtain ⟨rfl, htail⟩ := List.cons.inj h
        obtain ⟨rest, rfl, hrest⟩ := ih ha.2 htail
        exact ⟨rest, rfl, hrest⟩

theorem le_of_hexValue? {c : Char} {n : Nat} (h : hexValue? c = some n) : 0x20 ≤ c.toNat := by
  have hle (low : Char) (hlow : 0x20 ≤ low.toNat) (hc : low ≤ c) : 0x20 ≤ c.toNat := Nat.le_trans hlow hc
  unfold hexValue? at h
  split at h
  · next hdigit => exact hle '0' (by decide) hdigit.1
  · split at h
    · next hletter => exact hle 'a' (by decide) hletter.1
    · split at h
      · next hletter => exact hle 'A' (by decide) hletter.1
      · cases h

theorem le_of_codeUnit? {a b c d : Char} {unit : Nat} (h : codeUnit? a b c d = some unit) :
    0x20 ≤ a.toNat ∧ 0x20 ≤ b.toNat ∧ 0x20 ≤ c.toNat ∧ 0x20 ≤ d.toNat := by
  simp only [codeUnit?, Option.bind_eq_bind, Option.bind_eq_some_iff] at h
  obtain ⟨_, ha, _, hb, _, hc, _, hd, -⟩ := h
  exact ⟨le_of_hexValue? ha, le_of_hexValue? hb, le_of_hexValue? hc, le_of_hexValue? hd⟩

theorem le_of_shortEscape? {c escaped : Char} (h : shortEscape? c = some escaped) : 0x20 ≤ c.toNat ∧ c ≠ 'u' := by
  unfold shortEscape? at h
  split at h
  case h_9 => cases h
  all_goals decide

theorem Inside.cons_eq_ok {code length n : Nat} {inside : Inside} {codes : List Nat}
    (h : Inside.cons code length inside = .ok (codes, n)) :
    ∃ codes' n', inside = .ok (codes', n') ∧ codes = code :: codes' ∧ n = n' + length := by
  obtain ⟨⟨codes', n'⟩, hinside, heq⟩ := map_eq_ok.1 h
  cases heq
  exact ⟨codes', n', hinside, rfl, rfl⟩

theorem split_of_inside {cs : List Char} {codes : List Nat} {n : Nat} (h : inside cs = .ok (codes, n)) :
    ∃ a b, cs = a ++ b ∧ a.length = n ∧ (∀ c ∈ a, 0x20 ≤ c.toNat) ∧ ∀ b', inside (a ++ b') = .ok (codes, n) := by
  fun_induction inside cs generalizing codes n with
  | case1 => cases h
  | case2 rest =>
    cases h
    exact ⟨['"'], rest, rfl, rfl, List.forall_mem_singleton.2 (by decide), fun b' => rfl⟩
  | case3 => cases h
  | case4 a b c d next rest unit hunit ih =>
    obtain ⟨codes', n', hinside, rfl, rfl⟩ := Inside.cons_eq_ok h
    obtain ⟨front, back, hsplit, rfl, hfront, hsame⟩ := ih hinside
    obtain ⟨ha, hb, hc, hd⟩ := le_of_codeUnit? hunit
    refine ⟨'\\' :: 'u' :: a :: b :: c :: d :: front, back, by rw [hsplit]; rfl, rfl, ?_, fun b' => ?_⟩
    · simpa [ha, hb, hc, hd] using hfront
    · cases front with
      | nil => cases hsame []
      | cons x front =>
        have hrest := hsame b'
        simp only [List.cons_append] at hrest ⊢
        rw [inside, hunit, hrest]
        rfl
  | case5 => cases h
  | case6 => cases h
  | case7 c rest hlong hu escaped hescaped ih =>
    obtain ⟨codes', n', hinside, rfl, rfl⟩ := Inside.cons_eq_ok h
    obtain ⟨front, back, rfl, rfl, hfront, hsame⟩ := ih hinside
    obtain ⟨hc, hne⟩ := le_of_shortEscape? hescaped
    refine ⟨'\\' :: c :: front, back, rfl, rfl, ?_, fun b' => ?_⟩
    · simpa [hc] using hfront
    · simp only [List.cons_append]
      rw [inside, hescaped]
      · dsimp only
        rw [hsame]
        rfl
      · exact fun _ _ _ _ _ _ h _ => hne h
      · exact hne
  | case8 => cases h
  | case9 => cases h
  | case10 c rest hquote hend hlong hu hbackslash hplain ih =>
    obtain ⟨codes', n', hinside, rfl, rfl⟩ := Inside.cons_eq_ok h
    obtain ⟨front, back, rfl, rfl, hfront, hsame⟩ := ih hinside
    have hne : c ≠ '\\' := by
      intro hc
      cases htail : front ++ back with
      | nil => exact hend hc htail
      | cons d more => exact hbackslash d more hc htail
    refine ⟨c :: front, back, rfl, rfl, ?_, fun b' => ?_⟩
    · simpa [Nat.le_of_not_lt hplain] using hfront
    · rw [List.cons_append, inside, if_neg hplain, hsame]
      · rfl
      · exact hquote
      all_goals simp [hne]

/-- A string has the same codes and the same length, whatever its line ends are made. -/
theorem inside_unifyNewLines {cs : List Char} {codes : List Nat} {n : Nat} :
    inside (unifyNewLines cs) = .ok (codes, n) ↔ inside cs = .ok (codes, n) := by
  have hcontrol {a : List Char} (ha : ∀ c ∈ a, 0x20 ≤ c.toNat) {c : Char} (hc : c.toNat < 0x20) : c ∉ a :=
    fun hmem => absurd (ha c hmem) (Nat.not_le.2 hc)
  constructor
  · intro h
    obtain ⟨a, b, hsplit, -, ha, hsame⟩ := split_of_inside h
    obtain ⟨rest, rfl, -⟩ := exists_of_unifyNewLines_eq (hcontrol ha (by decide)) hsplit
    exact hsame rest
  · intro h
    obtain ⟨a, b, rfl, -, ha, hsame⟩ := split_of_inside h
    rw [unifyNewLines_append (hcontrol ha (by decide))]
    exact hsame _

theorem drop_unifyNewLines_of_inside {cs : List Char} {codes : List Nat} {n : Nat}
    (h : inside cs = .ok (codes, n)) : (unifyNewLines cs).drop n = unifyNewLines (cs.drop n) := by
  obtain ⟨a, b, rfl, rfl, ha, -⟩ := split_of_inside h
  have hreturn : '\r' ∉ a := fun hmem => absurd (ha _ hmem) (by decide)
  rw [unifyNewLines_append hreturn, List.drop_left, List.drop_left]

def Token.unplaced : Token → Token
  | .brokenString _ _ => .brokenString .unterminatedString []
  | token => token

theorem scanString_of_ok {cs : List Char} {codes : List Nat} {n : Nat} (h : inside cs = .ok (codes, n)) :
    scanString ('"' :: cs) = (.string (String.ofList (joinPairs codes)), n + 1) := by
  unfold scanString
  rw [List.drop_one, List.tail_cons, h]

theorem scanString_of_error {cs : List Char} {e : Complaint × Option (List Char)} (h : inside cs = .error e) :
    (scanString ('"' :: cs)).1.unplaced = .brokenString .unterminatedString [] ∧ (scanString ('"' :: cs)).2 = 1 := by
  unfold scanString
  rw [List.drop_one, List.tail_cons, h]
  exact ⟨rfl, rfl⟩

theorem scan_cases (c : Char) :
    (∃ token, ∀ cs, scan (c :: cs) = (token, 1)) ∨ c = '"' ∨ ∀ cs, scan (c :: cs) = scanPlain (c :: cs) := by
  by_cases hquote : c = '"'
  · exact .inr (.inl hquote)
  · by_cases hbracket : c = '[' ∨ c = ']' ∨ c = '{' ∨ c = '}' ∨ c = ',' ∨ c = ':'
    · left
      rcases hbracket with rfl | rfl | rfl | rfl | rfl | rfl <;> exact ⟨_, fun cs => rfl⟩
    · right
      right
      intro cs
      simp only [not_or] at hbracket
      unfold scan
      split
      case h_8 => rfl
      all_goals
        next heq =>
          cases heq
          simp at hquote hbracket

theorem exists_split_at_return (cs : List Char) :
    ∃ a b, cs = a ++ b ∧ '\r' ∉ a ∧ ∀ c, b.head? = some c → c = '\r' := by
  refine ⟨cs.takeWhile (· ≠ '\r'), cs.dropWhile (· ≠ '\r'), List.takeWhile_append_dropWhile.symm, ?_, ?_⟩
  · intro hmem
    exact absurd (List.mem_takeWhile_imp hmem) (by decide)
  · intro c hc
    have hhead := List.head?_dropWhile_not (· ≠ '\r') cs
    rw [hc] at hhead
    simpa using hhead

theorem scan_unifyNewLines (c : Char) (cs : List Char) :
    (scan (c :: unifyNewLines cs)).1.unplaced = (scan (c :: cs)).1.unplaced ∧
      (unifyNewLines cs).drop ((scan (c :: unifyNewLines cs)).2 - 1) =
        unifyNewLines (cs.drop ((scan (c :: cs)).2 - 1)) := by
  rcases scan_cases c with ⟨token, hscan⟩ | rfl | hscan
  · rw [hscan, hscan]
    exact ⟨rfl, rfl⟩
  · show (scanString _).1.unplaced = (scanString _).1.unplaced ∧
      (unifyNewLines cs).drop ((scanString _).2 - 1) = unifyNewLines (cs.drop ((scanString _).2 - 1))
    cases h : inside cs with
    | ok found =>
      obtain ⟨codes, n⟩ := found
      rw [scanString_of_ok h, scanString_of_ok (inside_unifyNewLines.2 h)]
      exact ⟨rfl, drop_unifyNewLines_of_inside h⟩
    | error e =>
      cases h' : inside (unifyNewLines cs) with
      | ok found =>
        rw [inside_unifyNewLines.1 h'] at h
        cases h
      | error e' =>
        rw [(scanString_of_error h).1, (scanString_of_error h).2, (scanString_of_error h').1,
          (scanString_of_error h').2]
        exact ⟨rfl, rfl⟩
  · -- Such a token ends before the first carriage return, on which it does not depend.
    obtain ⟨a, b, rfl, ha, hb⟩ := exists_split_at_return cs
    have hdelimited : Delimited b := fun c hc => .inr (.inr (.inr (.inr (hb c hc))))
    have hlength := scanPlain_snd_le c a
    have hdrop : '\r' ∉ a.drop ((scanPlain (c :: a)).2 - 1) := fun hmem => ha (List.mem_of_mem_drop hmem)
    rw [hscan, hscan, unifyNewLines_append ha, scanPlain_append hdelimited, scanPlain_append hdelimited.unifyNewLines,
      List.drop_append_of_le_length (by omega), List.drop_append_of_le_length (by omega), unifyNewLines_append hdrop]
    exact ⟨rfl, rfl⟩

theorem tokensAfter_eq (taken : Nat) (cs : List Char) : tokensAfter taken cs = tokens (cs.drop taken) := by
  induction cs generalizing taken with
  | nil => cases taken <;> rfl
  | cons c cs ih =>
    cases taken with
    | zero => rfl
    | succ left => exact ih left

/-- The tokens are the same with line ends of every kind. -/
theorem unplaced_readTokens (cs : List Char) :
    (readTokens cs).map Token.unplaced = (tokens cs).map Token.unplaced := by
  induction h : cs.length using Nat.strong_induction_on generalizing cs with
  | _ length ih =>
    cases cs with
    | nil => rfl
    | cons c cs =>
      subst h
      cases hspace : isSpace c with
      | true =>
        rw [readTokens_space hspace, tokens_space hspace]
        exact ih cs.length (Nat.lt_succ_self _) cs rfl
      | false =>
        have hc : c ≠ '\r' := by
          rintro rfl
          cases hspace
        obtain ⟨htoken, hbehind⟩ := scan_unifyNewLines c cs
        have hshorter : (cs.drop ((scan (c :: cs)).2 - 1)).length < (c :: cs).length := by
          rw [List.length_drop, List.length_cons]
          omega
        rw [readTokens, unifyNewLines_cons hc, tokens_cons hspace, tokens_cons hspace, tokensAfter_eq, tokensAfter_eq,
          List.map_cons, List.map_cons, htoken, hbehind]
        exact congrArg _ (ih _ hshorter _ rfl)

def Stop.tooLong? : Stop → Option Nat
  | .complaint _ _ => none
  | .tooManyDigits count => some count

variable {lexeme lexeme' : Lexeme}

theorem token_eq_or_broken {t t' : Token} (h : t.unplaced = t'.unplaced) :
    t = t' ∨ ∃ c place c' place', t = .brokenString c place ∧ t' = .brokenString c' place' := by
  cases t <;> cases t' <;> simp_all [Token.unplaced]

theorem startValue_unplaced (h : lexeme.token.unplaced = lexeme'.token.unplaced) (stack : List Frame) :
    (startValue stack lexeme).mapError Stop.tooLong? = (startValue stack lexeme').mapError Stop.tooLong? := by
  obtain ⟨token, text⟩ := lexeme
  obtain ⟨token', text'⟩ := lexeme'
  rcases token_eq_or_broken h with rfl | ⟨c, place, c', place', rfl, rfl⟩
  · unfold startValue
    cases token <;> rfl
  · rfl

/-- What a token does depends on no place in the text, but for the complaint that it leads to. -/
theorem step_unplaced (h : lexeme.token.unplaced = lexeme'.token.unplaced) (state : State) :
    (state.step lexeme).mapError Stop.tooLong? = (state.step lexeme').mapError Stop.tooLong? := by
  have hvalue := startValue_unplaced h
  obtain ⟨token, text⟩ := lexeme
  obtain ⟨token', text'⟩ := lexeme'
  rcases token_eq_or_broken h with rfl | ⟨c, place, c', place', rfl, rfl⟩
  · cases state with
    | value stack => exact hvalue stack
    | element stack =>
      cases token with
      | closeArray => rfl
      | _ => exact hvalue (.array [] :: stack)
    | name stack isFirst entries => cases token <;> cases isFirst <;> rfl
    | colon stack entries field => cases token <;> rfl
    | next stack v =>
      cases stack with
      | nil => rfl
      | cons frame stack => cases frame <;> cases token <;> rfl
  · cases state with
    | value stack => rfl
    | element stack => rfl
    | name stack isFirst entries => rfl
    | colon stack entries field => rfl
    | next stack v =>
      cases stack with
      | nil => rfl
      | cons frame stack => cases frame <;> rfl

theorem foldlM_step_unplaced {lexemes lexemes' : List Lexeme}
    (h : (lexemes.map (·.token)).map Token.unplaced = (lexemes'.map (·.token)).map Token.unplaced) (state : State) :
    (lexemes.foldlM State.step state).mapError Stop.tooLong? =
      (lexemes'.foldlM State.step state).mapError Stop.tooLong? := by
  induction lexemes generalizing lexemes' state with
  | nil =>
    obtain rfl : lexemes' = [] := by simpa using h.symm
    rfl
  | cons lexeme lexemes ih =>
    cases lexemes' with
    | nil => cases h
    | cons lexeme' lexemes' =>
      obtain ⟨hfirst, hrest⟩ := List.cons.inj h
      rw [List.foldlM_cons, List.foldlM_cons, mapError_bind, mapError_bind, step_unplaced hfirst state]
      exact congrArg _ (funext fun state => ih hrest state)

def Failure.tooLong? : Failure → Option Nat
  | .malformed _ => none
  | .tooManyDigits count => some count

theorem tooLong?_failure (cs : List Char) (stop : Stop) : (stop.failure cs).tooLong? = stop.tooLong? := by
  cases stop <;> rfl

theorem parse_unifyNewLines (cs : List Char) :
    (parse (unifyNewLines cs)).mapError Failure.tooLong? = (parse cs).mapError Failure.tooLong? := by
  have hvalue (cs : List Char) :
      (parse cs).mapError Failure.tooLong? = (valueOf (lexemes cs)).mapError Stop.tooLong? := by
    unfold parse
    cases valueOf (lexemes cs) with
    | ok v => rfl
    | error stop => exact congrArg Except.error (tooLong?_failure cs stop)
  have hsteps : ((lexemes (unifyNewLines cs)).foldlM State.step (.value [])).mapError Stop.tooLong? =
      ((lexemes cs).foldlM State.step (.value [])).mapError Stop.tooLong? :=
    foldlM_step_unplaced (unplaced_readTokens cs) _
  rw [hvalue, hvalue, valueOf, valueOf, mapError_bind, mapError_bind, hsteps]

theorem head?_unifyNewLines_eq_mark (cs : List Char) :
    (unifyNewLines cs).head? = some '\ufeff' ↔ cs.head? = some '\ufeff' := by
  cases cs with
  | nil => rfl
  | cons c cs =>
    by_cases hc : c = '\r'
    · subst hc
      obtain ⟨rest, hrest, -⟩ := unifyNewLines_return cs
      rw [hrest]
      simp
    · rw [unifyNewLines_cons hc]
      rfl

/-- A text is read as the same value with line ends of one kind, or is not read either, for the same number that is
too long if it is for one. -/
theorem parseUnmarked_unifyNewLines (cs : List Char) :
    (parseUnmarked (unifyNewLines cs)).mapError Failure.tooLong? = (parseUnmarked cs).mapError Failure.tooLong? := by
  unfold parseUnmarked
  simp only [head?_unifyNewLines_eq_mark]
  split
  · rfl
  · exact parse_unifyNewLines cs

end DataShape.Json
