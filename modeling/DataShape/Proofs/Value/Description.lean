import DataShape.Proofs.Value.Limit

/-! Short descriptions of values whose whole numbers can all be written: there always is one. Entries
and sets may be described in sorted order, which leaves nothing out and adds nothing. -/

namespace DataShape

variable {α : Type} {key : α → Value}

theorem mem_of_mem_insertFalling {item x : α} {items sorted : List α}
    (h : insertFalling key item items = some sorted) (hx : x ∈ sorted) : x = item ∨ x ∈ items := by
  induction items generalizing sorted with
  | nil =>
    obtain rfl := Option.some.inj h
    exact .inl (List.mem_singleton.1 hx)
  | cons last rest ih =>
    simp only [insertFalling, Option.bind_eq_bind, Option.bind_eq_some_iff] at h
    obtain ⟨isLess, -, h⟩ := h
    cases isLess with
    | true =>
      simp only [if_true, Option.bind_eq_some_iff] at h
      obtain ⟨inserted, hinserted, h⟩ := h
      obtain rfl := Option.some.inj h
      rcases List.mem_cons.1 hx with rfl | hx
      · exact .inr List.mem_cons_self
      · exact (ih hinserted hx).imp_right (List.mem_cons_of_mem _)
    | false =>
      obtain rfl := Option.some.inj h
      exact List.mem_cons.1 hx

theorem mem_of_mem_insertAll {x : α} {items start sorted : List α}
    (h : items.foldlM (fun sorted item => insertFalling key item sorted) start = some sorted)
    (hx : x ∈ sorted) : x ∈ items ∨ x ∈ start := by
  induction items generalizing start with
  | nil =>
    obtain rfl := Option.some.inj h
    exact .inr hx
  | cons item items ih =>
    rw [List.foldlM_cons, Option.bind_eq_bind, Option.bind_eq_some_iff] at h
    obtain ⟨next, hnext, h⟩ := h
    rcases ih h with hx | hx
    · exact .inl (List.mem_cons_of_mem _ hx)
    · exact (mem_of_mem_insertFalling hnext hx).imp_left fun hx => List.mem_cons.2 (.inl hx)

theorem mem_of_mem_sortedIfComparable {x : α} {items : List α} (h : x ∈ sortedIfComparable key items) :
    x ∈ items := by
  unfold sortedIfComparable at h
  split at h
  · next falling hfalling =>
    exact (mem_of_mem_insertAll hfalling (List.mem_reverse.1 h)).resolve_right List.not_mem_nil
  · exact h

theorem listed_succeeds {limit : Nat} {gap : String} {pieces : List (Value × Outcome String)}
    (h : ∀ piece ∈ pieces, ∃ s, piece.2 = .ok s) : ∃ s, listed limit gap (pieces.map (·.2)) = .ok s := by
  refine bind_succeeds (mapM_succeeds.2 fun shown hshown => ?_) fun _ _ => ⟨_, rfl⟩
  obtain ⟨piece, hpiece, rfl⟩ := List.mem_map.1 (List.mem_of_mem_take hshown)
  exact h piece hpiece

theorem shownPieces_succeeds {limits : DescriptionLimits} {depth limit count : Nat}
    {pieces : List (Value × Outcome String)} (h : ∀ piece ∈ pieces, ∃ s, piece.2 = .ok s) :
    ∃ s, shownPieces limits depth limit count (fun _ => pieces.map (·.2)) = .ok s := by
  unfold shownPieces
  split
  · exact ⟨_, rfl⟩
  · split
    · exact ⟨_, rfl⟩
    · exact listed_succeeds h

namespace Value

variable {limits : DescriptionLimits} {depth : Nat}

theorem keyedLiterals_eq_map (items : List Value) :
    keyedLiterals limits depth items = items.map fun v => (v, v.shortLiteral limits depth) := by
  induction items with
  | nil => rfl
  | cons v vs ih => rw [keyedLiterals, ih, List.map_cons]

def shortEntry (limits : DescriptionLimits) (depth : Nat) (entry : Value × Value) : Outcome String := do
  let key ← entry.1.shortLiteral limits depth
  let value ← entry.2.shortLiteral limits depth
  return key ++ ": " ++ value

theorem keyedEntries_eq_map (entries : Entries) :
    keyedEntries limits depth entries = entries.map fun entry => (entry.1, shortEntry limits depth entry) := by
  induction entries with
  | nil => rfl
  | cons entry entries ih => rw [keyedEntries, ih, List.map_cons]; rfl

theorem shortEntry_succeeds {entry : Value × Value} (hkey : ∃ s, entry.1.shortLiteral limits depth = .ok s)
    (hvalue : ∃ s, entry.2.shortLiteral limits depth = .ok s) : ∃ s, shortEntry limits depth entry = .ok s :=
  bind_succeeds hkey fun _ _ => bind_succeeds hvalue fun _ _ => ⟨_, rfl⟩

theorem keyedLiterals_succeed {items : List Value} (h : ∀ v ∈ items, ∃ s, v.shortLiteral limits depth = .ok s) :
    ∀ piece ∈ keyedLiterals limits depth items, ∃ s, piece.2 = .ok s := by
  rw [keyedLiterals_eq_map]
  intro piece hpiece
  obtain ⟨v, hv, rfl⟩ := List.mem_map.1 hpiece
  exact h v hv

theorem keyedEntries_succeed {entries : Entries}
    (h : ∀ entry ∈ entries, (∃ s, entry.1.shortLiteral limits depth = .ok s) ∧
      ∃ s, entry.2.shortLiteral limits depth = .ok s) :
    ∀ piece ∈ keyedEntries limits depth entries, ∃ s, piece.2 = .ok s := by
  rw [keyedEntries_eq_map]
  intro piece hpiece
  obtain ⟨entry, hentry, rfl⟩ := List.mem_map.1 hpiece
  exact shortEntry_succeeds (h entry hentry).1 (h entry hentry).2

theorem shortLiteral_succeeds {v : Value} (h : v.WithinDigitLimit) (depth : Nat) :
    ∃ s, v.shortLiteral limits depth = .ok s := by
  induction v using induction_on_parts generalizing depth with
  | step v ih =>
    have part (depth : Nat) (x : Value) (hx : x ∈ v.parts) : ∃ s, x.shortLiteral limits depth = .ok s :=
      ih x hx (h.part hx) depth
    have pairs (depth : Nat) {entries : Entries}
        (hv : v.parts = entries.flatMap fun entry => [entry.1, entry.2]) (entry : Value × Value)
        (hentry : entry ∈ entries) : (∃ s, entry.1.shortLiteral limits depth = .ok s) ∧
          ∃ s, entry.2.shortLiteral limits depth = .ok s :=
      ⟨part depth _ (hv ▸ mem_entry_parts.2 ⟨entry, hentry, .inl rfl⟩),
        part depth _ (hv ▸ mem_entry_parts.2 ⟨entry, hentry, .inr rfl⟩)⟩
    cases v with
    | str s => exact ⟨_, rfl⟩
    | int n =>
      rw [shortLiteral]
      exact bind_succeeds (writtenInt_succeeds h.int) fun _ _ => ⟨_, rfl⟩
    | list items =>
      rw [shortLiteral]
      exact bind_succeeds (shownPieces_succeeds (keyedLiterals_succeed (part _))) fun _ _ => ⟨_, rfl⟩
    | tuple items =>
      rw [shortLiteral]
      exact bind_succeeds (shownPieces_succeeds (keyedLiterals_succeed (part _))) fun _ _ => ⟨_, rfl⟩
    | set items =>
      cases items with
      | nil => exact ⟨_, rfl⟩
      | cons first rest =>
        simp only [shortLiteral]
        refine bind_succeeds (shownPieces_succeeds fun piece hpiece => ?_) fun _ _ => ⟨_, rfl⟩
        exact keyedLiterals_succeed (part _) piece (mem_of_mem_sortedIfComparable hpiece)
    | dict entries =>
      rw [shortLiteral]
      refine bind_succeeds (shownPieces_succeeds fun piece hpiece => ?_) fun _ _ => ⟨_, rfl⟩
      exact keyedEntries_succeed (pairs _ rfl) piece (mem_of_mem_sortedIfComparable hpiece)
    | null | undefined | bool _ | float _ | fraction _ | decimal _ | bytes _ | view _ =>
      simp only [shortLiteral]
      exact bind_succeeds (literal_succeeds h) fun _ _ => ⟨_, rfl⟩

theorem description_succeeds {v : Value} (h : v.WithinDigitLimit) : ∃ s, v.description = .ok s := by
  cases v with
  | null | undefined => exact ⟨_, rfl⟩
  | _ =>
    simp only [description]
    exact bind_succeeds (shortLiteral_succeeds h _) fun _ _ => ⟨_, rfl⟩

end Value

section Stops

variable {E : Failure → Prop}

theorem stopsBy_listed {limit : Nat} {gap : String} {pieces : List (Outcome String)}
    (h : ∀ piece ∈ pieces, StopsBy E piece) : StopsBy E (listed limit gap pieces) :=
  .bind (.mapM fun piece hpiece => h piece (List.mem_of_mem_take hpiece)) fun _ => .ok _

theorem stopsBy_shownPieces {limits : DescriptionLimits} {depth limit count : Nat}
    {pieces : Unit → List (Outcome String)} (h : ∀ piece ∈ pieces (), StopsBy E piece) :
    StopsBy E (shownPieces limits depth limit count pieces) := by
  unfold shownPieces
  split
  · exact .ok _
  · split
    · exact .ok _
    · exact stopsBy_listed h

end Stops

namespace Value

variable {limits : DescriptionLimits}

/-- Nothing but a number that is too long keeps a value from being shown. -/
theorem stopsBy_shortLiteral (v : Value) (depth : Nat) :
    StopsBy (· = .tooLongToWrite) (v.shortLiteral limits depth) := by
  induction v using induction_on_parts generalizing depth with
  | step v ih =>
    have part (depth : Nat) {items : List Value} (hparts : v.parts = items) :
        ∀ piece ∈ keyedLiterals limits depth items, StopsBy (· = .tooLongToWrite) piece.2 := by
      rw [keyedLiterals_eq_map]
      intro piece hpiece
      obtain ⟨x, hx, rfl⟩ := List.mem_map.1 hpiece
      exact ih x (hparts ▸ hx) depth
    cases v with
    | str s => exact .ok _
    | int n =>
      rw [shortLiteral]
      exact .bind (fun e => writtenInt_eq_error) fun _ => .ok _
    | list items | tuple items =>
      rw [shortLiteral]
      refine .bind (stopsBy_shownPieces fun piece hpiece => ?_) fun _ => .ok _
      obtain ⟨pair, hpair, rfl⟩ := List.mem_map.1 hpiece
      exact part _ rfl pair hpair
    | set items =>
      cases items with
      | nil =>
        unfold shortLiteral
        exact .ok _
      | cons first rest =>
        simp only [shortLiteral]
        refine .bind (stopsBy_shownPieces fun piece hpiece => ?_) fun _ => .ok _
        obtain ⟨pair, hpair, rfl⟩ := List.mem_map.1 hpiece
        exact part _ rfl pair (mem_of_mem_sortedIfComparable hpair)
    | dict entries =>
      rw [shortLiteral]
      refine .bind (stopsBy_shownPieces fun piece hpiece => ?_) fun _ => .ok _
      obtain ⟨pair, hpair, rfl⟩ := List.mem_map.1 hpiece
      have hkeyed := mem_of_mem_sortedIfComparable hpair
      rw [keyedEntries_eq_map] at hkeyed
      obtain ⟨entry, hentry, rfl⟩ := List.mem_map.1 hkeyed
      obtain ⟨hkey, hvalue⟩ := mem_parts_of_entries (v := .dict entries) rfl hentry
      exact .bind (ih _ hkey _) fun _ => .bind (ih _ hvalue _) fun _ => .ok _
    | null | undefined | bool _ | float _ | fraction _ | decimal _ | bytes _ | view _ =>
      simp only [shortLiteral]
      exact .bind (fun e => literal_eq_error) fun _ => .ok _

theorem description_eq_error {v : Value} {e : Failure} (h : v.description = .error e) : e = .tooLongToWrite := by
  have hshown : StopsBy (· = .tooLongToWrite) (do return v.typeName ++ " " ++ (← v.shortLiteral .standard
      DescriptionLimits.standard.depth)) := .bind (stopsBy_shortLiteral v _) fun _ => .ok _
  cases v with
  | null | undefined => cases h
  | _ => exact hshown e h

end Value
end DataShape
