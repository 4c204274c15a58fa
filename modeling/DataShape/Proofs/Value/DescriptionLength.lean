import DataShape.Proofs.Value.Description
import Mathlib.Algebra.Order.Group.Nat

/-! How long the description of a value can be. Every literal in it is cut, a container shows a few of its elements and
goes down a few levels, so there is a bound that no value exceeds, however large it is and however deep. -/

namespace DataShape

/-- If there is a text at all, it has no more characters than that. -/
def WritesUpTo (bound : Nat) (x : Outcome String) : Prop := ∀ s, x = .ok s → s.length ≤ bound

theorem WritesUpTo.ok {bound : Nat} {s : String} (h : s.length ≤ bound) : WritesUpTo bound (.ok s) := by
  intro t ht
  cases ht
  exact h

theorem WritesUpTo.mono {bound bound' : Nat} {x : Outcome String} (h : WritesUpTo bound x) (hle : bound ≤ bound') :
    WritesUpTo bound' x := fun s hs => (h s hs).trans hle

theorem WritesUpTo.bind {α : Type} {bound : Nat} {x : Outcome α} {f : α → Outcome String}
    (h : ∀ a, x = .ok a → WritesUpTo bound (f a)) : WritesUpTo bound (x >>= f) := by
  intro s hs
  obtain ⟨a, ha, hs⟩ := bind_eq_ok.1 hs
  exact h a ha s hs

theorem length_intercalate_append_le (separator last : String) {parts : List String} {bound : Nat}
    (h : ∀ part ∈ parts, part.length ≤ bound) :
    (separator.intercalate (parts ++ [last])).length ≤ parts.length * (bound + separator.length) + last.length := by
  induction parts with
  | nil => simp
  | cons first rest ih =>
    rw [List.forall_mem_cons] at h
    obtain ⟨second, others, hrest⟩ := List.exists_cons_of_ne_nil (show rest ++ [last] ≠ [] by simp)
    have ih := ih h.2
    have hfirst := h.1
    rw [List.cons_append, hrest, String.intercalate_cons_cons, ← hrest, String.length_append, String.length_append,
      List.length_cons, Nat.add_mul]
    omega

theorem length_intercalate_le {separator : String} {parts : List String} {bound : Nat}
    (h : ∀ part ∈ parts, part.length ≤ bound) :
    (separator.intercalate parts).length ≤ parts.length * (bound + separator.length) := by
  rcases List.eq_nil_or_concat parts with rfl | ⟨start, last, rfl⟩
  · simp
  · rw [List.concat_eq_append] at h ⊢
    have hstart : ∀ part ∈ start, part.length ≤ bound := by
      intro part hpart
      exact h part (List.mem_append_left _ hpart)
    have hlast : last.length ≤ bound := h last (List.mem_append_right _ (List.mem_singleton_self last))
    have hall := length_intercalate_append_le separator last hstart
    rw [List.length_append, List.length_singleton, Nat.add_mul]
    omega

theorem length_cutText_le {limit : Nat} (hlimit : 3 ≤ limit) {gap : String} (hgap : gap.length = 3) (s : String) :
    (cutText limit gap s).length ≤ limit := by
  unfold cutText lastItems keptAtEnd keptInFront
  dsimp only
  split
  · simp only [String.length_append, String.length_ofList, List.length_take, List.length_drop, hgap]
    omega
  · next hshort =>
    rw [← String.length_toList]
    omega

theorem length_cutQuoted_le {limit : Nat} (hlimit : 3 ≤ limit) {gap : String} (hgap : gap.length = 3) (s : String) :
    (cutQuoted limit gap s).length ≤ limit := by
  unfold cutQuoted lastItems keptAtEnd keptInFront
  dsimp only
  split
  · simp only [String.length_append, String.length_ofList, List.length_take, List.length_drop, hgap]
    omega
  · rw [String.length_ofList]
    omega

theorem writesUpTo_cutText {limit : Nat} (hlimit : 3 ≤ limit) {gap : String} (hgap : gap.length = 3)
    (x : Outcome String) : WritesUpTo limit (do return cutText limit gap (← x)) :=
  .bind fun s _ => .ok (length_cutText_le hlimit hgap s)

theorem writesUpTo_listed {limit bound : Nat} {gap : String} {pieces : List (Outcome String)}
    (h : ∀ piece ∈ pieces, WritesUpTo bound piece) :
    WritesUpTo (limit * (bound + 2) + gap.length) (listed limit gap pieces) := by
  apply WritesUpTo.bind
  intro shown hshown
  have hlength : shown.length ≤ limit := by
    have hsame := (forall₂_of_mapM hshown).length_eq
    rw [List.length_take] at hsame
    omega
  have hpieces : ∀ s ∈ shown, s.length ≤ bound := by
    intro s hs
    obtain ⟨piece, hpiece, heq⟩ := exists_of_mem_mapM hshown hs
    exact h piece (List.mem_of_mem_take hpiece) s heq
  have hroom : shown.length * (bound + 2) ≤ limit * (bound + 2) := Nat.mul_le_mul_right _ hlength
  apply WritesUpTo.ok
  split
  · exact (length_intercalate_append_le _ _ hpieces).trans (Nat.add_le_add_right hroom _)
  · exact (length_intercalate_le hpieces).trans (hroom.trans (Nat.le_add_right _ _))

theorem writesUpTo_shownPieces_zero {limits : DescriptionLimits} {limit count : Nat}
    {pieces : Unit → List (Outcome String)} :
    WritesUpTo limits.gap.length (shownPieces limits 0 limit count pieces) := by
  unfold shownPieces
  split
  · exact .ok (Nat.zero_le _)
  · exact .ok le_rfl

theorem writesUpTo_shownPieces {limits : DescriptionLimits} {depth limit count bound : Nat}
    {pieces : Unit → List (Outcome String)} (h : ∀ piece ∈ pieces (), WritesUpTo bound piece) :
    WritesUpTo (limit * (bound + 2) + limits.gap.length) (shownPieces limits (depth + 1) limit count pieces) := by
  unfold shownPieces
  split
  · exact .ok (Nat.zero_le _)
  · rw [if_neg (Nat.succ_ne_zero depth)]
    exact writesUpTo_listed h

/-- The most characters of a literal that is cut to the standard limits, with so many levels of containers. -/
def longestLiteral : Nat → Nat
  | 0 => 60
  | depth + 1 => 8 * longestLiteral depth + 21

theorem longestLiteral_add_three (depth : Nat) : longestLiteral depth + 3 = 63 * 8 ^ depth := by
  induction depth with
  | zero => rfl
  | succ depth ih =>
    rw [longestLiteral, pow_succ]
    omega

theorem le_longestLiteral (depth : Nat) : 60 ≤ longestLiteral depth := by
  induction depth with
  | zero => exact le_rfl
  | succ depth ih =>
    rw [longestLiteral]
    omega

theorem longestLiteral_of_ne_zero {depth : Nat} (h : depth ≠ 0) :
    longestLiteral depth = 8 * longestLiteral (depth - 1) + 21 := by
  cases depth with
  | zero => exact absurd rfl h
  | succ depth => rfl

/-- What stands between brackets leaves room for them, and for a few characters more. -/
theorem length_inner_add_le {depth limit count bound brackets : Nat} {pieces : Unit → List (Outcome String)}
    (hbrackets : brackets ≤ 3) (hpieces : ∀ piece ∈ pieces (), WritesUpTo bound piece)
    (hbound : depth ≠ 0 → limit * (bound + 2) + 3 + brackets ≤ longestLiteral depth) {inner : String}
    (h : shownPieces .standard depth limit count pieces = .ok inner) :
    inner.length + brackets ≤ longestLiteral depth := by
  have hgap : DescriptionLimits.standard.gap.length = 3 := rfl
  cases depth with
  | zero =>
    have hinner := writesUpTo_shownPieces_zero inner h
    have hroom := le_longestLiteral 0
    omega
  | succ depth =>
    have hinner := writesUpTo_shownPieces hpieces inner h
    have hroom := hbound (Nat.succ_ne_zero depth)
    omega

namespace Value

open DescriptionLimits (standard)

theorem writesUpTo_shortEntry {limits : DescriptionLimits} {depth bound : Nat} {entry : Value × Value}
    (hkey : WritesUpTo bound (entry.1.shortLiteral limits depth))
    (hvalue : WritesUpTo bound (entry.2.shortLiteral limits depth)) :
    WritesUpTo (2 * bound + 2) (shortEntry limits depth entry) := by
  apply WritesUpTo.bind
  intro key hk
  apply WritesUpTo.bind
  intro value hv
  have hkey := hkey key hk
  have hvalue := hvalue value hv
  have hcolon : ": ".length = 2 := rfl
  apply WritesUpTo.ok
  simp only [String.length_append]
  omega

/-- A literal that is cut has no more characters than its levels allow. -/
theorem writesUpTo_shortLiteral (v : Value) (depth : Nat) :
    WritesUpTo (longestLiteral depth) (v.shortLiteral standard depth) := by
  induction v using induction_on_parts generalizing depth with
  | step v ih =>
    have hgap : standard.gap.length = 3 := rfl
    have hcut := le_longestLiteral depth
    have helements {items : List Value} (hparts : v.parts = items) :
        ∀ piece ∈ (keyedLiterals standard (depth - 1) items).map (·.2),
          WritesUpTo (longestLiteral (depth - 1)) piece := by
      rw [keyedLiterals_eq_map, List.map_map]
      intro piece hpiece
      obtain ⟨x, hx, rfl⟩ := List.mem_map.1 hpiece
      exact ih x (hparts ▸ hx) (depth - 1)
    have hroom : depth ≠ 0 → standard.elements * (longestLiteral (depth - 1) + 2) + 3 + 3 ≤ longestLiteral depth := by
      intro hdepth
      have hlevel := longestLiteral_of_ne_zero hdepth
      have hsix : standard.elements = 6 := rfl
      rw [hsix]
      omega
    cases v with
    | str s => exact .ok ((length_cutQuoted_le (by decide) hgap s).trans hcut)
    | int n =>
      rw [shortLiteral]
      have hdigits : standard.digits ≤ longestLiteral depth := le_trans (by decide) hcut
      exact (writesUpTo_cutText (by decide) hgap _).mono hdigits
    | list items =>
      rw [shortLiteral]
      apply WritesUpTo.bind
      intro inner hinner
      have hlength := length_inner_add_le le_rfl (helements rfl) hroom hinner
      apply WritesUpTo.ok
      simp only [String.length_append]
      have hopening : "[".length = 1 := rfl
      have hclosing : "]".length = 1 := rfl
      omega
    | tuple items =>
      rw [shortLiteral]
      apply WritesUpTo.bind
      intro inner hinner
      have hlength := length_inner_add_le le_rfl (helements rfl) hroom hinner
      have hopening : "(".length = 1 := rfl
      have hclosing : ")".length = 1 := rfl
      have htrail : (if depth ≠ 0 ∧ items.length = 1 then "," else "").length ≤ 1 := by
        split
        · exact le_rfl
        · exact Nat.zero_le 1
      apply WritesUpTo.ok
      simp only [String.length_append]
      omega
    | set items =>
      cases items with
      | nil =>
        unfold shortLiteral
        have hempty : "set()".length = 5 := rfl
        exact .ok (by omega)
      | cons first rest =>
        simp only [shortLiteral]
        apply WritesUpTo.bind
        intro inner hinner
        have hpieces : ∀ piece ∈
            (sortedIfComparable (·.1) (keyedLiterals standard (depth - 1) (first :: rest))).map (·.2),
            WritesUpTo (longestLiteral (depth - 1)) piece := by
          intro piece hpiece
          obtain ⟨pair, hpair, rfl⟩ := List.mem_map.1 hpiece
          exact helements rfl _ (List.mem_map_of_mem (mem_of_mem_sortedIfComparable hpair))
        have hlength := length_inner_add_le le_rfl hpieces hroom hinner
        have hopening : "\x7b".length = 1 := rfl
        have hclosing : "\x7d".length = 1 := rfl
        apply WritesUpTo.ok
        simp only [String.length_append]
        omega
    | dict entries =>
      rw [shortLiteral]
      apply WritesUpTo.bind
      intro inner hinner
      -- an entry is two literals and what stands between them: this is what the bound of a level is made for
      have hpieces : ∀ piece ∈ (sortedIfComparable (·.1) (keyedEntries standard (depth - 1) entries)).map (·.2),
          WritesUpTo (2 * longestLiteral (depth - 1) + 2) piece := by
        intro piece hpiece
        obtain ⟨pair, hpair, rfl⟩ := List.mem_map.1 hpiece
        have hkeyed := mem_of_mem_sortedIfComparable hpair
        rw [keyedEntries_eq_map] at hkeyed
        obtain ⟨entry, hentry, rfl⟩ := List.mem_map.1 hkeyed
        obtain ⟨hkey, hvalue⟩ := mem_parts_of_entries (v := .dict entries) rfl hentry
        exact writesUpTo_shortEntry (ih _ hkey _) (ih _ hvalue _)
      have hentries : depth ≠ 0 →
          standard.entries * (2 * longestLiteral (depth - 1) + 2 + 2) + 3 + 2 ≤ longestLiteral depth := by
        intro hdepth
        have hlevel := longestLiteral_of_ne_zero hdepth
        have hfour : standard.entries = 4 := rfl
        rw [hfour]
        omega
      have hlength := length_inner_add_le (by decide) hpieces hentries hinner
      have hopening : "\x7b".length = 1 := rfl
      have hclosing : "\x7d".length = 1 := rfl
      apply WritesUpTo.ok
      simp only [String.length_append]
      omega
    | null | undefined | bool _ | float _ | fraction _ | decimal _ | bytes _ | view _ =>
      simp only [shortLiteral]
      exact (writesUpTo_cutText (by decide) hgap _).mono hcut

/-- The most characters of the literal in a description, by the type of the value. -/
def shownLimit : Value → Nat
  | .null | .undefined => 0
  | .int _ => 40
  | .str _ | .bool _ | .float _ | .bytes _ | .fraction _ | .decimal _ | .view _ => 60
  | .list _ | .tuple _ | .set _ | .dict _ => 63 * 8 ^ 6 - 3

theorem writesUpTo_shownLimit {v : Value} (hnull : v ≠ .null) (hundefined : v ≠ .undefined) :
    WritesUpTo v.shownLimit (v.shortLiteral standard standard.depth) := by
  have hgap : standard.gap.length = 3 := rfl
  have hlevels : longestLiteral standard.depth ≤ 63 * 8 ^ 6 - 3 := by
    have hsix : longestLiteral standard.depth + 3 = 63 * 8 ^ 6 := longestLiteral_add_three 6
    omega
  cases v with
  | null => exact absurd rfl hnull
  | undefined => exact absurd rfl hundefined
  | str s => exact .ok (length_cutQuoted_le (by decide) hgap s)
  | int _ =>
    rw [shortLiteral]
    exact writesUpTo_cutText (show 3 ≤ standard.digits by decide) hgap _
  | bool _ | float _ | bytes _ | fraction _ | decimal _ | view _ =>
    simp only [shortLiteral]
    exact writesUpTo_cutText (show 3 ≤ standard.characters by decide) hgap _
  | list _ | tuple _ | set _ | dict _ => exact (writesUpTo_shortLiteral _ _).mono hlevels

/-- A description is a type and a literal, but of the two values that are known by their names. -/
theorem description_eq {v : Value} (hnull : v ≠ .null) (hundefined : v ≠ .undefined) :
    v.description = do return v.typeName ++ " " ++ (← v.shortLiteral standard standard.depth) := by
  cases v with
  | null => exact absurd rfl hnull
  | undefined => exact absurd rfl hundefined
  | _ => rfl

theorem length_typeName_le (v : Value) : v.typeName.length ≤ 12 := by
  cases v <;> simp only [typeName] <;> decide

theorem shownLimit_le (v : Value) : v.shownLimit ≤ 63 * 8 ^ 6 - 3 := by
  cases v <;> simp only [shownLimit] <;> decide

theorem writesUpTo_description (v : Value) : WritesUpTo (63 * 8 ^ 6 + 10) v.description := by
  by_cases hnull : v = .null
  · subst hnull
    exact .ok (by decide)
  by_cases hundefined : v = .undefined
  · subst hundefined
    exact .ok (by decide)
  rw [description_eq hnull hundefined]
  apply WritesUpTo.bind
  intro literal hliteral
  have htype := v.length_typeName_le
  have hlimit := v.shownLimit_le
  have hlength := writesUpTo_shownLimit hnull hundefined literal hliteral
  have hspace : " ".length = 1 := rfl
  apply WritesUpTo.ok
  simp only [String.length_append]
  omega

end Value
end DataShape
