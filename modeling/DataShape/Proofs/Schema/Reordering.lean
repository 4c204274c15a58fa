import DataShape.Proofs.Schema.Role

/-! Schemas whose entries stand in another order, at whatever depth: what is looked up in them by its key is the same
but for the order of its own entries. -/

namespace DataShape
namespace Value

/-- A value in a role, and the same value with the entries of schemas in it, and of mappings of properties, put in
another order. -/
inductive Reordered : Role → Value → Value → Prop
  | same (role : Role) (v : Value) : Reordered role v v
  /-- Schemas that stand one by one for the items of a tuple. -/
  | places {v w : Value} {xs ys : List Value} (hv : v.elements? = some xs) (hw : w.elements? = some ys)
      (hlength : xs.length = ys.length)
      (places : ∀ (i : Nat) (x y : Value), xs[i]? = some x → ys[i]? = some y → Reordered .schema x y) :
      Reordered .items v w
  | entries {role : Role} (hrole : role ≠ .data) {v w : Value} {as bs entries : Entries}
      (hv : v.entries? = some as) (hw : w.entries? = some entries) (hkeys : as.keys = bs.keys)
      (values : ∀ (i : Nat) (a b : Value × Value), as[i]? = some a → bs[i]? = some b →
        Reordered (role.under a.1) a.2 b.2)
      (hperm : bs.Perm entries) : Reordered role v w

namespace Reordered

variable {v w : Value}

theorem eq_of_data (h : Reordered .data v w) : v = w := by
  cases h with
  | same => rfl
  | entries hrole => exact absurd rfl hrole

theorem field? {role : Role} (h : Reordered role v w) (hv : v.HasDistinctKeys) (hrole : role ≠ .data) (name : String) :
    v.field? name = none ∧ w.field? name = none ∨
      ∃ x y, v.field? name = some x ∧ w.field? name = some y ∧ Reordered (role.under (.str name)) x y := by
  cases h with
  | same =>
    cases hfield : v.field? name with
    | none => exact .inl ⟨rfl, rfl⟩
    | some x => exact .inr ⟨x, x, rfl, rfl, .same _ x⟩
  | places hv hw => exact .inl (by simp [Value.field?, entries?_of_elements? hv, entries?_of_elements? hw])
  | @entries _ _ _ _ as bs entries hentries hw hkeys values hperm =>
    simp only [Value.field?, hentries, hw, Option.bind_some, Entries.lookup?]
    obtain ⟨ha, hb⟩ | ⟨i, a, b, hai, hbi, ha, hb⟩ :=
      Entries.find?_of_keys_eq_of_perm hkeys (hv as hentries) hperm (.str name)
    · exact .inl (by simp [ha, hb])
    · refine .inr ⟨a.2, b.2, by simp [ha], by simp [hb], ?_⟩
      have hkey : a.1 = .str name := sameKey_str_iff.1 (by simpa using List.find?_some ha)
      exact hkey ▸ values i a b hai hbi

theorem field?_of_data {role : Role} (h : Reordered role v w) (hv : v.HasDistinctKeys) (hrole : role ≠ .data)
    {name : String} (hname : role.under (.str name) = .data) : v.field? name = w.field? name := by
  obtain ⟨hx, hy⟩ | ⟨x, y, hx, hy, hxy⟩ := h.field? hv hrole name
  · rw [hx, hy]
  · rw [hname] at hxy
    rw [hx, hy, hxy.eq_of_data]

theorem isNull_eq {role : Role} (h : Reordered role v w) : v.isNull = w.isNull := by
  cases h with
  | same => rfl
  | places hv hw => cases v <;> cases hv <;> cases w <;> cases hw <;> rfl
  | entries _ hv hw => cases v <;> cases hv <;> cases w <;> cases hw <;> rfl

/-- What stands for the items of an array or tuple is a schema for each place, or one schema, in both. -/
theorem items_cases (h : Reordered .items v w) :
    (∃ xs ys, v.elements? = some xs ∧ w.elements? = some ys ∧ xs.length = ys.length ∧
      ∀ (i : Nat) (x y : Value), xs[i]? = some x → ys[i]? = some y → Reordered .schema x y) ∨
    v.elements? = none ∧ w.elements? = none ∧ Reordered .schema v w := by
  cases h with
  | same =>
    cases hv : v.elements? with
    | none => exact .inr ⟨rfl, rfl, .same _ v⟩
    | some xs =>
      refine .inl ⟨xs, xs, rfl, rfl, rfl, fun i x y hx hy => ?_⟩
      rw [hx] at hy
      cases hy
      exact .same _ x
  | places hv hw hlength places => exact .inl ⟨_, _, hv, hw, hlength, places⟩
  | entries _ hv hw hkeys values hperm =>
    exact .inr ⟨elements?_of_entries? hv, elements?_of_entries? hw, .entries (by simp) hv hw hkeys values hperm⟩

theorem properties_cases (h : Reordered .properties v w) :
    v.entries? = none ∧ w.entries? = none ∨
    ∃ as bs entries, v.entries? = some as ∧ w.entries? = some entries ∧ as.keys = Entries.keys bs ∧ bs.Perm entries ∧
      ∀ (i : Nat) (a b : Value × Value), as[i]? = some a → bs[i]? = some b → Reordered .schema a.2 b.2 := by
  cases h with
  | same =>
    cases hv : v.entries? with
    | none => exact .inl ⟨rfl, rfl⟩
    | some as =>
      refine .inr ⟨as, as, as, rfl, rfl, rfl, .refl _, fun i a b ha hb => ?_⟩
      rw [ha] at hb
      cases hb
      exact .same _ a.2
  | entries _ hv hw hkeys values hperm => exact .inr ⟨_, _, _, hv, hw, hkeys, hperm, values⟩

end Reordered
end Value
end DataShape
