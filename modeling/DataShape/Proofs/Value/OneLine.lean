import DataShape.Proofs.Text.OneLine
import DataShape.Proofs.Value.Description

/-! Values are written in one line, whatever texts they hold: as literals, as numbers and in short descriptions. As
plain text a value is written in one line unless it is a text with a line end in it. -/

namespace DataShape

/-- If there is a text at all, it is one line. -/
def WritesOneLine (x : Outcome String) : Prop := ∀ s, x = .ok s → IsOneLine s

theorem WritesOneLine.ok {s : String} (h : IsOneLine s) : WritesOneLine (.ok s) := by
  rintro _ ⟨rfl⟩
  exact h

theorem WritesOneLine.bind {α : Type} {x : Outcome α} {f : α → Outcome String}
    (h : ∀ a, x = .ok a → WritesOneLine (f a)) : WritesOneLine (x >>= f) := by
  intro s hs
  obtain ⟨a, ha, hs⟩ := bind_eq_ok.1 hs
  exact h a ha s hs

theorem writesOneLine_writtenInt (n : Int) : WritesOneLine (writtenInt n) := by
  intro s hs
  obtain ⟨-, rfl⟩ := writtenInt_eq_ok.1 hs
  exact isOneLine_intText n

theorem isOneLine_enclosed {opening closing separator : String} (hopening : IsOneLine opening)
    (hclosing : IsOneLine closing) (hseparator : IsOneLine separator) {pieces : List String}
    (h : ∀ piece ∈ pieces, IsOneLine piece) : IsOneLine (opening ++ separator.intercalate pieces ++ closing) :=
  (hopening.append (isOneLine_intercalate hseparator h)).append hclosing

namespace Value

/-- What is no number in decimal carries no line end. -/
def HasOneLinePayload : Value → Prop
  | .decimal d => d.HasOneLinePayload
  | _ => True

theorem isOneLine_of_mem_literals {items : List Value} {pieces : List String} (h : literals items = .ok pieces)
    (hitems : ∀ x ∈ items, WritesOneLine x.literal) : ∀ piece ∈ pieces, IsOneLine piece := by
  intro piece hpiece
  rw [literals_eq_mapM] at h
  obtain ⟨x, hx, hliteral⟩ := exists_of_mem_mapM h hpiece
  exact hitems x hx piece hliteral

theorem isOneLine_of_mem_entryLiterals {entries : Entries} {pieces : List String}
    (h : entryLiterals entries = .ok pieces)
    (hentries : ∀ entry ∈ entries, WritesOneLine entry.1.literal ∧ WritesOneLine entry.2.literal) :
    ∀ piece ∈ pieces, IsOneLine piece := by
  intro piece hpiece
  rw [entryLiterals_eq_mapM] at h
  obtain ⟨entry, hentry, hpair⟩ := exists_of_mem_mapM h hpiece
  obtain ⟨key, hkey, hpair⟩ := bind_eq_ok.1 hpair
  obtain ⟨value, hvalue, hpair⟩ := bind_eq_ok.1 hpair
  cases hpair
  exact (((hentries entry hentry).1 key hkey).append (isOneLine_ofList.2 (by decide))).append
    ((hentries entry hentry).2 value hvalue)

theorem writesOneLine_literal {v : Value} (hv : v.Everywhere HasOneLinePayload) : WritesOneLine v.literal := by
  induction v using induction_on_parts with
  | step v ih =>
    have part (x : Value) (hx : x ∈ v.parts) : WritesOneLine x.literal := ih x hx (hv.part hx)
    have pairs {entries : Entries} (hparts : v.parts = entries.flatMap fun entry => [entry.1, entry.2])
        (entry : Value × Value) (hentry : entry ∈ entries) :
        WritesOneLine entry.1.literal ∧ WritesOneLine entry.2.literal :=
      ⟨part _ (hparts ▸ mem_entry_parts.2 ⟨entry, hentry, .inl rfl⟩),
        part _ (hparts ▸ mem_entry_parts.2 ⟨entry, hentry, .inr rfl⟩)⟩
    cases v with
    | null | undefined => exact .ok (isOneLine_ofList.2 (by decide))
    | bool b => cases b <;> exact .ok (isOneLine_ofList.2 (by decide))
    | int n => exact writesOneLine_writtenInt n
    | float x => exact .ok (isOneLine_binaryText x)
    | fraction r =>
      refine .bind fun num hnum => .bind fun den hden => .ok ?_
      refine .append (.append (.append (.append ?_ (writesOneLine_writtenInt _ num hnum)) ?_)
        (writesOneLine_writtenInt _ den hden)) ?_
      · exact isOneLine_ofList.2 (by decide)
      · exact isOneLine_ofList.2 (by decide)
      · exact isOneLine_ofList.2 (by decide)
    | decimal d =>
      have hd : d.HasOneLinePayload := hv.here
      refine .ok (.append (.append ?_ (isOneLine_decimalText hd)) ?_)
      · exact isOneLine_ofList.2 (by decide)
      · exact isOneLine_ofList.2 (by decide)
    | str s => exact .ok (isOneLine_quoted s)
    | bytes bs => exact .ok (isOneLine_quotedBytes bs)
    | list items =>
      refine .bind fun pieces hpieces => .ok ?_
      refine isOneLine_enclosed ?_ ?_ ?_ (isOneLine_of_mem_literals hpieces part)
      all_goals exact isOneLine_ofList.2 (by decide)
    | tuple items =>
      have hpieces {pieces : List String} (h : literals items = .ok pieces) :
          IsOneLine ("(" ++ String.intercalate ", " pieces ++ ")") := by
        refine isOneLine_enclosed ?_ ?_ ?_ (isOneLine_of_mem_literals h part)
        all_goals exact isOneLine_ofList.2 (by decide)
      cases items with
      | nil => exact .bind fun pieces h => .ok (hpieces h)
      | cons first rest =>
        cases rest with
        | nil =>
          refine .bind fun s hs => .ok (.append (.append ?_ (part first (List.mem_singleton_self first) s hs)) ?_)
          · exact isOneLine_ofList.2 (by decide)
          · exact isOneLine_ofList.2 (by decide)
        | cons second rest => exact .bind fun pieces h => .ok (hpieces h)
    | set items =>
      cases items with
      | nil => exact .ok (isOneLine_ofList.2 (by decide))
      | cons first rest =>
        refine .bind fun pieces hpieces => .ok ?_
        refine isOneLine_enclosed ?_ ?_ ?_ (isOneLine_of_mem_literals hpieces part)
        all_goals exact isOneLine_ofList.2 (by decide)
    | dict entries =>
      refine .bind fun pieces hpieces => .ok ?_
      refine isOneLine_enclosed ?_ ?_ ?_ (isOneLine_of_mem_entryLiterals hpieces (pairs rfl))
      all_goals exact isOneLine_ofList.2 (by decide)
    | view entries =>
      refine .bind fun pieces hpieces => .ok ?_
      refine isOneLine_enclosed ?_ ?_ ?_ (isOneLine_of_mem_entryLiterals hpieces (pairs rfl))
      all_goals exact isOneLine_ofList.2 (by decide)

theorem writesOneLine_plain {v : Value} (hv : v.Everywhere HasOneLinePayload)
    (htext : ∀ s, v = .str s → IsOneLine s) : WritesOneLine v.plain := by
  cases v with
  | str s => exact .ok (htext s rfl)
  | decimal d => exact .ok (isOneLine_decimalText hv.here)
  | fraction r =>
    refine .bind fun num hnum => ?_
    have hone := writesOneLine_writtenInt _ num hnum
    split
    · exact .ok hone
    · refine .bind fun den hden => .ok ?_
      exact (hone.append (isOneLine_ofList.2 (by decide))).append (writesOneLine_writtenInt _ den hden)
  | _ => exact writesOneLine_literal hv

theorem writesOneLine_numberText {v : Value} (hv : v.isNumber = true) : WritesOneLine v.numberText := by
  have hpayload (h : v.HasOneLinePayload) (hparts : v.parts = []) : v.Everywhere HasOneLinePayload :=
    .intro h fun x hx => by
      rw [hparts] at hx
      cases hx
  cases v with
  | int n => exact writesOneLine_literal (hpayload trivial rfl)
  | float x =>
    simp only [numberText]
    split
    · exact writesOneLine_writtenInt _
    · exact .ok (isOneLine_binaryText x)
  | fraction r =>
    simp only [numberText]
    refine writesOneLine_plain (hpayload trivial rfl) ?_
    rintro s ⟨⟩
  | _ => cases hv

end Value

theorem newline_not_mem_lastItems {cs : List Char} (h : '\n' ∉ cs) (n : Nat) : '\n' ∉ lastItems n cs :=
  fun hmem => h (List.mem_of_mem_drop hmem)

theorem isOneLine_cutText {limit : Nat} {gap s : String} (hgap : IsOneLine gap) (h : IsOneLine s) :
    IsOneLine (cutText limit gap s) := by
  unfold cutText
  dsimp only
  split
  · refine .append (.append (isOneLine_ofList.2 fun hmem => h (List.mem_of_mem_take hmem)) hgap) ?_
    exact isOneLine_ofList.2 (newline_not_mem_lastItems h _)
  · exact h

theorem isOneLine_cutQuoted {limit : Nat} {gap : String} (hgap : IsOneLine gap) (s : String) :
    IsOneLine (cutQuoted limit gap s) := by
  have hchars := Quoted.newline_not_mem_chars
  unfold cutQuoted
  dsimp only
  split
  · refine .append (.append (isOneLine_ofList.2 fun hmem => hchars _ (List.mem_of_mem_take hmem)) hgap) ?_
    exact isOneLine_ofList.2 (newline_not_mem_lastItems (hchars _) _)
  · exact isOneLine_ofList.2 (hchars _)

theorem writesOneLine_listed {limit : Nat} {gap : String} (hgap : IsOneLine gap) {pieces : List (Outcome String)}
    (h : ∀ piece ∈ pieces, WritesOneLine piece) : WritesOneLine (listed limit gap pieces) := by
  refine .bind fun shown hshown => .ok (isOneLine_intercalate (isOneLine_ofList.2 (by decide)) ?_)
  have hpieces (s : String) (hs : s ∈ shown) : IsOneLine s := by
    obtain ⟨piece, hpiece, heq⟩ := exists_of_mem_mapM hshown hs
    exact h piece (List.mem_of_mem_take hpiece) s heq
  split
  · intro s hs
    rcases List.mem_append.1 hs with hs | hs
    · exact hpieces s hs
    · rwa [List.mem_singleton.1 hs]
  · exact hpieces

theorem writesOneLine_shownPieces {limits : DescriptionLimits} {depth limit count : Nat} (hgap : IsOneLine limits.gap)
    {pieces : Unit → List (Outcome String)} (h : ∀ piece ∈ pieces (), WritesOneLine piece) :
    WritesOneLine (shownPieces limits depth limit count pieces) := by
  unfold shownPieces
  split
  · exact .ok (isOneLine_ofList.2 (by decide))
  · split
    · exact .ok hgap
    · exact writesOneLine_listed hgap h

namespace Value

variable {limits : DescriptionLimits}

theorem writesOneLine_shortLiteral (hgap : IsOneLine limits.gap) {v : Value} (hv : v.Everywhere HasOneLinePayload)
    (depth : Nat) : WritesOneLine (v.shortLiteral limits depth) := by
  induction v using induction_on_parts generalizing depth with
  | step v ih =>
    have part (depth : Nat) {items : List Value} (hparts : v.parts = items) :
        ∀ piece ∈ (keyedLiterals limits depth items).map (·.2), WritesOneLine piece := by
      rw [keyedLiterals_eq_map, List.map_map]
      intro piece hpiece
      obtain ⟨x, hx, rfl⟩ := List.mem_map.1 hpiece
      exact ih x (hparts ▸ hx) (hv.part (hparts ▸ hx)) depth
    cases v with
    | str s => exact .ok (isOneLine_cutQuoted hgap s)
    | int n =>
      rw [shortLiteral]
      exact .bind fun s hs => .ok (isOneLine_cutText hgap (writesOneLine_writtenInt n s hs))
    | list items =>
      rw [shortLiteral]
      refine .bind fun inner hinner => .ok (.append (.append ?_ ?_) ?_)
      · exact isOneLine_ofList.2 (by decide)
      · exact writesOneLine_shownPieces hgap (part _ rfl) inner hinner
      · exact isOneLine_ofList.2 (by decide)
    | tuple items =>
      rw [shortLiteral]
      refine .bind fun inner hinner => .ok (.append (.append (.append ?_ ?_) ?_) ?_)
      · exact isOneLine_ofList.2 (by decide)
      · exact writesOneLine_shownPieces hgap (part _ rfl) inner hinner
      · split <;> exact isOneLine_ofList.2 (by decide)
      · exact isOneLine_ofList.2 (by decide)
    | set items =>
      cases items with
      | nil =>
        unfold shortLiteral
        exact .ok (isOneLine_ofList.2 (by decide))
      | cons first rest =>
        simp only [shortLiteral]
        refine .bind fun inner hinner => .ok (.append (.append ?_ ?_) ?_)
        · exact isOneLine_ofList.2 (by decide)
        · refine writesOneLine_shownPieces hgap (fun piece hpiece => ?_) inner hinner
          obtain ⟨pair, hpair, rfl⟩ := List.mem_map.1 hpiece
          exact part _ rfl _ (List.mem_map_of_mem (mem_of_mem_sortedIfComparable hpair))
        · exact isOneLine_ofList.2 (by decide)
    | dict entries =>
      rw [shortLiteral]
      refine .bind fun inner hinner => .ok (.append (.append ?_ ?_) ?_)
      · exact isOneLine_ofList.2 (by decide)
      · refine writesOneLine_shownPieces hgap (fun piece hpiece => ?_) inner hinner
        obtain ⟨pair, hpair, rfl⟩ := List.mem_map.1 hpiece
        have hkeyed := mem_of_mem_sortedIfComparable hpair
        rw [keyedEntries_eq_map] at hkeyed
        obtain ⟨entry, hentry, rfl⟩ := List.mem_map.1 hkeyed
        obtain ⟨hkey, hvalue⟩ := mem_parts_of_entries (v := .dict entries) rfl hentry
        refine .bind fun key hk => .bind fun value hval => .ok (.append (.append ?_ ?_) ?_)
        · exact ih _ hkey (hv.part hkey) _ key hk
        · exact isOneLine_ofList.2 (by decide)
        · exact ih _ hvalue (hv.part hvalue) _ value hval
      · exact isOneLine_ofList.2 (by decide)
    | null | undefined | bool _ | float _ | fraction _ | decimal _ | bytes _ | view _ =>
      simp only [shortLiteral]
      exact .bind fun s hs => .ok (isOneLine_cutText hgap (writesOneLine_literal hv s hs))

theorem isOneLine_typeName (v : Value) : IsOneLine v.typeName := by
  cases v <;> exact isOneLine_ofList.2 (by decide)

theorem writesOneLine_description {v : Value} (hv : v.Everywhere HasOneLinePayload) : WritesOneLine v.description := by
  have hgap : IsOneLine DescriptionLimits.standard.gap := isOneLine_ofList.2 (by decide)
  have hall : WritesOneLine (do return v.typeName ++ " " ++ (← v.shortLiteral .standard
      DescriptionLimits.standard.depth)) := by
    refine .bind fun s hs => .ok (.append (.append (isOneLine_typeName v) ?_) ?_)
    · exact isOneLine_ofList.2 (by decide)
    · exact writesOneLine_shortLiteral hgap hv _ s hs
  cases v with
  | null | undefined => exact .ok (isOneLine_ofList.2 (by decide))
  | _ => simpa only [description] using hall

end Value
end DataShape
