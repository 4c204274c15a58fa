import DataShape.Json.Reader
import DataShape.Proofs.Json.Writer

/-! Reading what was written. The tokens of a value lead the reader from where a value is expected to where one
has been read, whatever is open around it. -/

namespace DataShape.Json

/-- These tokens lead from one state to another, wherever in a text they stand. -/
def Leads (s : State) (ts : List Token) (s' : State) : Prop :=
  ∀ lexemes : List Lexeme, lexemes.map (·.token) = ts → lexemes.foldlM State.step s = .ok s'

variable {s s' s'' : State} {stack : List Frame}

theorem Leads.nil (s : State) : Leads s [] s := by
  intro lexemes h
  rw [List.map_eq_nil_iff.1 h]
  rfl

theorem Leads.cons {t : Token} {ts : List Token} (hstep : ∀ text, s.step ⟨t, text⟩ = .ok s')
    (h : Leads s' ts s'') : Leads s (t :: ts) s'' := by
  intro lexemes hlexemes
  obtain ⟨⟨_, text⟩, rest, rfl, rfl, hrest⟩ := List.map_eq_cons_iff.1 hlexemes
  rw [List.foldlM_cons, hstep text]
  exact h rest hrest

theorem Leads.append {a b : List Token} (ha : Leads s a s') (hb : Leads s' b s'') : Leads s (a ++ b) s'' := by
  intro lexemes hlexemes
  obtain ⟨first, second, rfl, hfirst, hsecond⟩ := List.map_eq_append_iff.1 hlexemes
  rw [List.foldlM_append, ha first hfirst]
  exact hb second hsecond

theorem Leads.single {t : Token} (hstep : ∀ text, s.step ⟨t, text⟩ = .ok s') : Leads s [t] s' :=
  .cons hstep (.nil s')

theorem Leads.valueOf {ts : List Token} {v : Value} (h : Leads (.value []) ts (.next [] v)) {lexemes : List Lexeme}
    (hlexemes : lexemes.map (·.token) = ts) : Json.valueOf lexemes = .ok v := by
  rw [Json.valueOf, h lexemes hlexemes]
  rfl

theorem Leads.element {t : Token} {ts : List Token} (h : Leads (.value (.array [] :: stack)) ts s)
    (ht : t ≠ .closeArray) (hts : ts.head? = some t) : Leads (.element stack) ts s := by
  intro lexemes hlexemes
  have hrun := h lexemes hlexemes
  obtain ⟨rest, rfl⟩ := List.head?_eq_some_iff.1 hts
  obtain ⟨lexeme, rest, rfl, rfl, -⟩ := List.map_eq_cons_iff.1 hlexemes
  rw [List.foldlM_cons] at hrun ⊢
  have hstep : (State.element stack).step lexeme = (State.value (.array [] :: stack)).step lexeme := by
    unfold State.step
    dsimp only
    split
    · next heq => exact absurd heq ht
    · rfl
  rwa [hstep]

theorem startValue_whole (stack : List Frame) {n : Int} (h : withinDigitLimit n = true) (text : List Char) :
    startValue stack ⟨.whole (n < 0) (decimalDigits n.natAbs), text⟩ = .ok (.next stack (.int n)) := by
  have hlength : (decimalDigits n.natAbs).length ≤ digitLimit :=
    (length_decimalDigits_le_iff (by decide)).2 (of_decide_eq_true h)
  unfold startValue
  dsimp only
  rw [if_pos hlength, readDecimal_decimalDigits]
  by_cases hn : n < 0
  · rw [decide_eq_true hn, if_pos rfl, Int.ofNat_natAbs_of_nonpos (Int.le_of_lt hn), Int.neg_neg]
  · rw [decide_eq_false hn, if_neg Bool.false_ne_true, Int.natAbs_of_nonneg (Int.not_lt.1 hn)]

/-- The elements of an array, behind those that have been read. -/
theorem leads_elements {first : Value} {rest : List Value} (items : List Value)
    (h : ∀ x ∈ first :: rest, ∀ stack, Leads (.value stack) (valueTokens x) (.next stack x.jsonForm)) :
    Leads (.value (.array items :: stack))
      ([Token.comma].intercalate ((first :: rest).map valueTokens) ++ [.closeArray])
      (.next stack (.list (items.reverse ++ (first :: rest).map Value.jsonForm))) := by
  induction rest generalizing first items with
  | nil =>
    rw [List.map_singleton, List.intercalate_singleton]
    refine (h first List.mem_cons_self _).append (.single fun text => ?_)
    rw [List.map_singleton, ← List.reverse_cons]
    rfl
  | cons second rest ih =>
    rw [List.forall_mem_cons] at h
    rw [List.map_cons, List.map_cons, List.intercalate_cons_cons, List.append_assoc, List.append_assoc]
    refine (h.1 _).append (.cons (fun text => rfl) ?_)
    have hrest := ih (first.jsonForm :: items) h.2
    rw [List.reverse_cons, List.append_assoc] at hrest
    exact hrest

/-- The entries of an object, behind those that have been read. -/
theorem leads_entries {first : Value × Value} {rest : Entries} (isFirst : Bool) (entries : Entries)
    (h : ∀ entry ∈ first :: rest, ∀ stack,
      Leads (.value stack) (valueTokens entry.2) (.next stack entry.2.jsonForm)) :
    Leads (.name stack isFirst entries)
      ([Token.comma].intercalate (entryTokens (first :: rest)) ++ [.closeObject])
      (.next stack (.dict ((Value.entryForms (first :: rest)).foldl
        (fun entries pair => Entries.put entries pair.1 pair.2) entries))) := by
  induction rest generalizing first isFirst entries with
  | nil =>
    obtain ⟨key, v⟩ := first
    rw [entryTokens, entryTokens, List.intercalate_singleton]
    refine .cons (fun text => rfl) (.cons (fun text => rfl) ?_)
    exact (h (key, v) List.mem_cons_self _).append (.single fun text => rfl)
  | cons second rest ih =>
    obtain ⟨key, v⟩ := first
    rw [List.forall_mem_cons] at h
    obtain ⟨ts, tss, hsecond⟩ : ∃ ts tss, entryTokens (second :: rest) = ts :: tss := ⟨_, _, rfl⟩
    have hrest := ih false (Entries.put entries (.str (keyName key)) v.jsonForm) h.2
    rw [hsecond] at hrest
    rw [entryTokens, hsecond, List.intercalate_cons_cons, List.append_assoc, List.append_assoc]
    refine .cons (fun text => rfl) (.cons (fun text => rfl) ?_)
    exact (h.1 _).append (.cons (fun text => rfl) hrest)

theorem valueTokens_eq_cons {v : Value} (h : IsWritten v) :
    ∃ t ts, valueTokens v = t :: ts ∧ t ≠ .closeArray ∧ t ≠ .stray := by
  obtain ⟨indent, level, text, hwrite⟩ := h
  cases v with
  | bool b => exact ⟨_, _, rfl, by cases b <;> decide, by cases b <;> decide⟩
  | null | int _ | float _ | str _ | list _ | tuple _ | dict _ => exact ⟨_, _, rfl, by simp, by simp⟩
  | _ => cases hwrite

theorem leads_array {items : List Value} (hwritten : ∀ x ∈ items, IsWritten x)
    (h : ∀ x ∈ items, ∀ stack, Leads (.value stack) (valueTokens x) (.next stack x.jsonForm)) :
    Leads (.value stack) (.openArray :: ([Token.comma].intercalate (elementTokens items) ++ [.closeArray]))
      (.next stack (.list (Value.elementForms items))) := by
  rw [elementTokens_eq_map, Value.elementForms_eq_map]
  refine .cons (fun text => rfl) ?_
  cases items with
  | nil => exact .single fun text => rfl
  | cons first rest =>
    obtain ⟨t, ts, hfirst, ht, -⟩ := valueTokens_eq_cons (hwritten first List.mem_cons_self)
    refine Leads.element (leads_elements [] h) ht ?_
    cases rest with
    | nil =>
      rw [List.map_singleton, List.intercalate_singleton, hfirst]
      rfl
    | cons second rest =>
      rw [List.map_cons, List.map_cons, List.intercalate_cons_cons, hfirst]
      rfl

/-- What was written is read as what a JSON text keeps of the value. -/
theorem leads_valueTokens {v : Value} (h : IsWritten v) (stack : List Frame) :
    Leads (.value stack) (valueTokens v) (.next stack v.jsonForm) := by
  induction v using Value.induction_on_parts generalizing stack with
  | step v ih =>
    have helement {items : List Value} (hv : v.elements? = some items) {x : Value} (hx : x ∈ items) :=
      ih x (Value.mem_parts_of_elements hv hx) (h.element hv hx)
    cases v with
    | null => exact .single fun text => rfl
    | bool b => cases b <;> exact .single fun text => rfl
    | int n =>
      obtain ⟨indent, level, text, hwrite⟩ := h
      exact .single fun text => startValue_whole stack (writtenInt_eq_ok.1 hwrite).1 text
    | float x => exact .single fun text => rfl
    | str s => exact .single fun text => rfl
    | list items => exact leads_array (fun x => h.element rfl) fun x => helement rfl
    | tuple items => exact leads_array (fun x => h.element rfl) fun x => helement rfl
    | dict entries =>
      refine .cons (fun text => rfl) ?_
      cases entries with
      | nil => exact .single fun text => rfl
      | cons first rest =>
        refine leads_entries true [] fun entry hentry => ?_
        exact ih _ (Value.mem_parts_of_entries (v := .dict (first :: rest)) rfl hentry).2
          ((h.entries rfl).2 entry hentry).2
    | _ =>
      obtain ⟨indent, level, text, hwrite⟩ := h
      cases hwrite

theorem readTokens_of_write {indent : Option String} (hindent : IsBlank indent) {v : Value}
    (hv : v.Everywhere FloatReadsBack) {text : String} (h : write indent 0 v = .ok text) :
    readTokens text.toList = valueTokens v := by
  have hspells := spells_write hindent hv h [] delimited_nil
  rwa [List.append_nil, show readTokens [] = [] from rfl, List.append_nil] at hspells

theorem head_ne_mark {cs : List Char} {t : Token} (h : (tokens cs).head? = some t) (ht : t ≠ .stray) :
    cs.head? ≠ some '\ufeff' := by
  intro hmark
  obtain ⟨rest, rfl⟩ := List.head?_eq_some_iff.1 hmark
  rw [tokens_cons (by decide)] at h
  exact ht (Option.some.inj h).symm

theorem Leads.parseUnmarked {cs : List Char} {ts : List Token} {v : Value} (h : Leads (.value []) ts (.next [] v))
    (htokens : tokens cs = ts) (hmark : cs.head? ≠ some '\ufeff') : Json.parseUnmarked cs = .ok v := by
  have hvalue : Json.valueOf (lexemes cs) = .ok v := h.valueOf htokens
  rw [Json.parseUnmarked, if_neg hmark, parse, hvalue]
  rfl

/-- A written text is read, with line ends of every kind, as what it keeps of the value. -/
theorem parse_of_write {indent : Option String} (hindent : IsBlank indent) {v : Value}
    (hv : v.Everywhere FloatReadsBack) {text : String} (h : write indent 0 v = .ok text) :
    parseUnmarked (unifyNewLines text.toList) = .ok v.jsonForm := by
  have htokens : tokens (unifyNewLines text.toList) = valueTokens v := readTokens_of_write hindent hv h
  have hwritten : IsWritten v := ⟨indent, 0, text, h⟩
  obtain ⟨t, ts, hfirst, -, hstray⟩ := valueTokens_eq_cons hwritten
  exact (leads_valueTokens hwritten []).parseUnmarked htokens
    (head_ne_mark (t := t) (by rw [htokens, hfirst]; rfl) hstray)

end DataShape.Json
