import DataShape.Proofs.Schema.Reordering
import DataShape.Proofs.Validation.Likeness

/-! Schemas whose entries stand in another order are read alike, and so validation says the same under them. -/

namespace DataShape
namespace Schema

open Value (Reordered HasDistinctKeys)

theorem Alike.isValid_eq {s t : Schema} (h : s.Alike t) : s.isValid = t.isValid := by
  cases h <;> rfl

/-- What is read from values is alike if it is so wherever both are schemas, and both are or neither is. -/
theorem alike_of_ofNode? {v w : Value} (h : Option.Rel Alike (ofNode? v) (ofNode? w)) :
    (ofValue v).Alike (ofValue w) := by
  rw [ofValue_eq, ofValue_eq]
  generalize ofNode? v = s at h ⊢
  generalize ofNode? w = t at h ⊢
  cases h with
  | some h => exact h
  | none => exact .invalid v w

section Node

variable {v w : Value} (h : Reordered .schema v w) (hv : v.Everywhere HasDistinctKeys)
  (ih : ∀ x y : Value, sizeOf x < sizeOf v → Reordered .schema x y → x.Everywhere HasDistinctKeys →
    (ofValue x).Alike (ofValue y))

include h hv

theorem tag?_of_reordered : v.tag? = w.tag? := by
  rw [Value.tag?, Value.tag?, h.field?_of_data hv.here (by simp) rfl]

theorem fieldOrNull_of_reordered {name : String} (hname : Role.ofKey (.str name) = .data) :
    v.fieldOrNull name = w.fieldOrNull name := by
  rw [Value.fieldOrNull, Value.fieldOrNull, h.field?_of_data hv.here (by simp) hname]

include ih

theorem ofNode?_array_of_reordered (htag : v.tag? = some "array") : Option.Rel Alike (ofNode? v) (ofNode? w) := by
  have htagw := (tag?_of_reordered h hv).symm.trans htag
  simp only [ofNode?, htag, htagw]
  obtain ⟨hx, hy⟩ | ⟨x, y, hx, hy, hxy⟩ := h.field? hv.here (by simp) "items"
  · rw [hx, hy]
    exact .none
  · have hlt := Value.sizeOf_lt_of_field hx
    rw [hx, hy, Option.map_some, Option.map_some]
    refine .some ?_
    obtain ⟨xs, ys, hxs, hys, hlength, hplaces⟩ | ⟨hxs, hys, hxy⟩ := hxy.items_cases
    · simp only [hxs, hys]
      refine .tuple (by simpa using hlength) fun i s t hs ht => ?_
      rw [List.getElem?_map, Option.map_eq_some_iff] at hs ht
      obtain ⟨a, ha, rfl⟩ := hs
      obtain ⟨b, hb, rfl⟩ := ht
      have hmem := List.mem_of_getElem? ha
      have hlta := Value.sizeOf_lt_of_element hxs hmem
      exact ih a b (Nat.lt_trans hlta hlt) (hplaces i a b ha hb) ((hv.field hx).element hxs hmem)
    · simp only [hxs, hys]
      exact .array (ih x y hlt hxy (hv.field hx))

omit h in
theorem alike_object_of_reordered {required x : Value} {as bs entries : Entries} (hx : v.field? "properties" = some x)
    (hxs : x.entries? = some as) (hkeys : as.keys = Entries.keys bs) (hperm : bs.Perm entries)
    (hvalues : ∀ (i : Nat) (a b : Value × Value), as[i]? = some a → bs[i]? = some b → Reordered .schema a.2 b.2) :
    Alike (.object (as.map Property.ofEntry) required) (.object (entries.map Property.ofEntry) required) := by
  have hfound := Entries.find?_of_keys_eq_of_perm hkeys ((hv.field hx).here as hxs) hperm
  refine .object required (fun key => ?_) fun key p q hp hq => ?_
  · rw [propertyFor?_map_ofEntry, propertyFor?_map_ofEntry]
    obtain ⟨ha, hb⟩ | ⟨_, _, _, -, -, ha, hb⟩ := hfound key <;> simp [ha, hb]
  · rw [propertyFor?_map_ofEntry, Option.map_eq_some_iff] at hp hq
    obtain ⟨a, ha, rfl⟩ := hp
    obtain ⟨b, hb, rfl⟩ := hq
    obtain ⟨hnone, -⟩ | ⟨i, a', b', hai, hbi, ha', hb'⟩ := hfound key
    · rw [ha] at hnone
      cases hnone
    · rw [ha] at ha'
      rw [hb] at hb'
      cases ha'
      cases hb'
      have hmem := List.mem_of_getElem? hai
      have hlt := Value.sizeOf_lt_of_field hx
      have hlta := Value.sizeOf_lt_of_entry hxs hmem
      exact ih _ _ (Nat.lt_trans hlta hlt) (hvalues i a b hai hbi) ((hv.field hx).entry hxs hmem).2

theorem ofNode?_object_of_reordered (htag : v.tag? = some "object") : Option.Rel Alike (ofNode? v) (ofNode? w) := by
  have htagw := (tag?_of_reordered h hv).symm.trans htag
  have hvalues : (v.field? "additionalProperties").filter (fun values => !values.isNull) = none ∧
        (w.field? "additionalProperties").filter (fun values => !values.isNull) = none ∨
      ∃ x y, v.field? "additionalProperties" = some x ∧
        (v.field? "additionalProperties").filter (fun values => !values.isNull) = some x ∧
        (w.field? "additionalProperties").filter (fun values => !values.isNull) = some y ∧ Reordered .schema x y := by
    obtain ⟨hx, hy⟩ | ⟨x, y, hx, hy, hxy⟩ := h.field? hv.here (by simp) "additionalProperties"
    · exact .inl (by simp [hx, hy])
    · have hnull : x.isNull = y.isNull := hxy.isNull_eq
      cases hcase : x.isNull with
      | true => exact .inl (by simp [hx, hy, Option.filter, hcase, ← hnull])
      | false => exact .inr ⟨x, y, hx, by simp [hx, Option.filter, hcase], by simp [hy, Option.filter, ← hnull, hcase], hxy⟩
  simp only [ofNode?, htag, htagw]
  obtain ⟨hnone, hnonew⟩ | ⟨x, y, hx, hfilter, hfilterw, hxy⟩ := hvalues
  · simp only [hnone, hnonew]
    obtain ⟨hx, hy⟩ | ⟨x, y, hx, hy, hxy⟩ := h.field? hv.here (by simp) "properties"
    · rw [hx, hy]
      exact .none
    · have hrequired : v.fieldOrNull "required" = w.fieldOrNull "required" := fieldOrNull_of_reordered h hv rfl
      rw [hx, hy, Option.bind_some, Option.bind_some, hrequired]
      obtain ⟨hxs, hys⟩ | ⟨as, bs, entries, hxs, hys, hkeys, hperm, hvalues⟩ := hxy.properties_cases
      · rw [hxs, hys]
        exact .none
      · rw [hxs, hys]
        exact .some (alike_object_of_reordered hv ih hx hxs hkeys hperm hvalues)
  · simp only [hfilter, hfilterw]
    have hlt := Value.sizeOf_lt_of_field hx
    exact .some (.record (ih x y hlt hxy (hv.field hx)))

theorem ofNode?_modified_of_reordered (htag : v.tag? = some "modified") :
    Option.Rel Alike (ofNode? v) (ofNode? w) := by
  have htagw := (tag?_of_reordered h hv).symm.trans htag
  simp only [ofNode?, htag, htagw]
  obtain ⟨hx, hy⟩ | ⟨x, y, hx, hy, hxy⟩ := h.field? hv.here (by simp) "item"
  · rw [hx, hy]
    exact .none
  · have hxy : Reordered .schema x y := hxy
    have hdistinct := hv.field hx
    have halike := ih x y (Value.sizeOf_lt_of_field hx) hxy hdistinct
    have hmodified : x.isModified = y.isModified := by
      rw [Value.isModified, Value.isModified, tag?_of_reordered hxy hdistinct]
    have hschema : x.isSchema = y.isSchema := halike.isValid_eq
    rw [hx, hy, Option.filter, Option.filter, hmodified, hschema]
    split
    · exact .some halike
    · exact .none

end Node

/-- A schema is read alike in whatever order its entries stand. -/
theorem alike_of_reordered {v w : Value} (h : Reordered .schema v w) (hv : v.Everywhere HasDistinctKeys) :
    (ofValue v).Alike (ofValue w) := by
  -- The places of a tuple are parts of a part, so an induction on the derivation does not come to them.
  induction hsize : sizeOf v using Nat.strongRecOn generalizing v w with
  | ind n ih =>
    subst hsize
    have ih (x y : Value) (hlt : sizeOf x < sizeOf v) (hxy : Reordered .schema x y)
        (hx : x.Everywhere HasDistinctKeys) : (ofValue x).Alike (ofValue y) := ih _ hlt hxy hx rfl
    have htagw := (tag?_of_reordered h hv).symm
    refine alike_of_ofNode? ?_
    by_cases harray : v.tag? = some "array"
    · exact ofNode?_array_of_reordered h hv ih harray
    by_cases hobject : v.tag? = some "object"
    · exact ofNode?_object_of_reordered h hv ih hobject
    by_cases hmodified : v.tag? = some "modified"
    · exact ofNode?_modified_of_reordered h hv ih hmodified
    have hnumber (rule : NumberRule) : v.fieldOrNull rule.key = w.fieldOrNull rule.key :=
      fieldOrNull_of_reordered h hv (by cases rule <;> rfl)
    have hstring (rule : TextRule) : v.fieldOrNull rule.key = w.fieldOrNull rule.key :=
      fieldOrNull_of_reordered h hv (by cases rule <;> rfl)
    rw [ofNode?, ofNode?, htagw]
    split
    case h_1 | h_2 | h_3 | h_6 => exact .some (.refl _)
    case h_4 => simpa only [hnumber] using .some (.refl _)
    case h_5 => simpa only [hstring] using .some (.refl _)
    case h_7 htag => exact absurd htag harray
    case h_8 htag => exact absurd htag hobject
    case h_9 htag => exact absurd htag hmodified
    case h_10 => exact .none

end Schema
end DataShape
