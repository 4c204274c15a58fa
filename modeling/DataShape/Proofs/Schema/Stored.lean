import DataShape.Proofs.Json.Writer
import DataShape.Proofs.Schema.Check

/-! Schemas that are stored as JSON texts. What a text keeps of a schema that passes the check passes it too: no
other key is written as the name of a field, and every name that is required stays declared. -/

namespace DataShape
namespace Schema

theorem check_of_children {s : Schema} (hs : s.isDefective = false)
    (h : ∀ child ∈ s.children, (∃ text, child.1.text = .ok text) ∧ ∀ path, child.2.check path = .ok ())
    (path : String) : s.check path = .ok () := by
  have hnode : s.checkNode path = .ok () := by
    cases s with
    | invalid v => cases hs
    | _ =>
      simp only [checkNode, hs]
      rfl
  rw [check_eq, hnode]
  refine forM_eq_ok.2 fun child hchild => ?_
  obtain ⟨⟨text, htext⟩, hcheck⟩ := h child hchild
  rw [checkChild, htext]
  exact hcheck _

/-- The value passes the check, at whatever path. -/
def Accepted (v : Value) : Prop := ∀ path, checkSchema v path = .ok ()

theorem Accepted.isSchema {v : Value} (h : Accepted v) : v.isSchema = true :=
  isSchema_of_isDefective (wellFormed_of_check (h "")).here

theorem accepted_of_ofNode? {v : Value} {s : Schema} (hv : ofNode? v = some s) (hs : s.isDefective = false)
    (h : ∀ child ∈ s.children, (∃ text, child.1.text = .ok text) ∧ ∀ path, child.2.check path = .ok ()) :
    Accepted v := by
  intro path
  rw [checkSchema, ofValue_of_ofNode? hv]
  exact check_of_children hs h path

theorem accepted_leaf {v : Value} {tag : String} (htag : v.tag? = some tag)
    (h : tag ∈ ["any", "boolean", "null", "number", "string", "undefined"]) : Accepted v := by
  simp only [List.mem_cons, List.not_mem_nil, or_false] at h
  intro path
  rw [checkSchema, ofValue_eq, ofNode?, htag]
  rcases h with rfl | rfl | rfl | rfl | rfl | rfl <;> rfl

theorem accepted_array {v items : Value} (htag : v.tag? = some "array") (hitems : v.field? "items" = some items)
    (helements : items.elements? = none) (h : Accepted items) : Accepted v := by
  have hnode : ofNode? v = some (.array (ofValue items)) := by
    simp only [ofNode?, htag, hitems, Option.map_some, helements]
  refine accepted_of_ofNode? hnode rfl fun child hchild => ?_
  rw [List.mem_singleton.1 hchild]
  exact ⟨⟨_, rfl⟩, h⟩

theorem accepted_tuple {v items : Value} {elements : List Value} (htag : v.tag? = some "array")
    (hitems : v.field? "items" = some items) (helements : items.elements? = some elements)
    (h : ∀ x ∈ elements, Accepted x) : Accepted v := by
  have hnode : ofNode? v = some (.tuple (elements.map ofValue)) := by
    simp only [ofNode?, htag, hitems, Option.map_some, helements]
  refine accepted_of_ofNode? hnode rfl fun child hchild => ?_
  obtain ⟨⟨item, i⟩, hitem, rfl⟩ := List.mem_map.1 hchild
  obtain ⟨x, hx, rfl⟩ := List.mem_map.1 (List.fst_mem_of_mem_zipIdx hitem)
  exact ⟨⟨_, rfl⟩, h x hx⟩

theorem accepted_record {v values : Value} (htag : v.tag? = some "object")
    (hvalues : ((v.field? "additionalProperties").filter fun x => !x.isNull) = some values)
    (h : Accepted values) : Accepted v := by
  have hnode : ofNode? v = some (.record (ofValue values)) := by
    simp only [ofNode?, htag, hvalues]
  refine accepted_of_ofNode? hnode rfl fun child hchild => ?_
  rw [List.mem_singleton.1 hchild]
  exact ⟨⟨_, rfl⟩, h⟩

theorem accepted_object {v declared : Value} {entries : Entries} {names : List String}
    (htag : v.tag? = some "object") (hvalues : ((v.field? "additionalProperties").filter fun x => !x.isNull) = none)
    (hdeclared : v.field? "properties" = some declared) (hentries : declared.entries? = some entries)
    (hrequired : requiredNames? (v.fieldOrNull "required") = some names)
    (hnames : declares (entries.map Property.ofEntry) names = true)
    (h : ∀ entry ∈ entries, (∃ text, entry.1.plain = .ok text) ∧ Accepted entry.2) : Accepted v := by
  have hnode : ofNode? v = some (.object (entries.map Property.ofEntry) (v.fieldOrNull "required")) := by
    simp only [ofNode?, htag, hvalues, hdeclared, Option.bind_some, hentries, Option.map_some]
  refine accepted_of_ofNode? hnode ?_ fun child hchild => ?_
  · simp only [isDefective, hrequired, hnames, Bool.not_true]
  · rw [children, List.map_map] at hchild
    obtain ⟨entry, hentry, rfl⟩ := List.mem_map.1 hchild
    exact h entry hentry

theorem accepted_modified {v item : Value} (htag : v.tag? = some "modified") (hitem : v.field? "item" = some item)
    (hmodified : item.isModified = false) (h : Accepted item) : Accepted v := by
  have hnode : ofNode? v = some (ofValue item) := by
    simp [ofNode?, htag, hitem, hmodified, h.isSchema]
  intro path
  rw [checkSchema, ofValue_of_ofNode? hnode]
  exact h path

end Schema

namespace Value

/-- A value that is written, in which every binary number reads back and no mapping has a key twice. -/
structure IsStored (v : Value) : Prop where
  written : Json.IsWritten v
  floats : v.Everywhere Json.FloatReadsBack
  keys : v.Everywhere HasDistinctKeys

theorem IsStored.element {v x : Value} {items : List Value} (h : v.IsStored) (hv : v.elements? = some items)
    (hx : x ∈ items) : x.IsStored :=
  ⟨h.written.element hv hx, h.floats.element hv hx, h.keys.element hv hx⟩

theorem IsStored.entry {v : Value} {entries : Entries} {entry : Value × Value} (h : v.IsStored)
    (hv : v.entries? = some entries) (hentry : entry ∈ entries) : entry.2.IsStored :=
  ⟨((h.written.entries hv).2 entry hentry).2, (h.floats.entry hv hentry).2, (h.keys.entry hv hentry).2⟩

theorem IsStored.field {v x : Value} {name : String} (h : v.IsStored) (hx : v.field? name = some x) :
    x.IsStored := by
  obtain ⟨entries, hv, hlookup⟩ := Option.bind_eq_some_iff.1 hx
  obtain ⟨entry, hentry, rfl⟩ := Option.map_eq_some_iff.1 hlookup
  exact h.entry hv (List.mem_of_find?_eq_some hentry)

theorem IsStored.field?_jsonForm {v : Value} (h : v.IsStored) {name : String}
    (hname : (Json.tokens name.toList).head? = some .stray) :
    v.jsonForm.field? name = (v.field? name).map jsonForm := by
  cases hv : v.entries? with
  | none =>
    have hform : v.jsonForm.entries? = none := by
      cases v <;> first | rfl | cases hv
    rw [field?, field?, hv, hform]
    rfl
  | some entries =>
    obtain ⟨rfl, hentries⟩ := h.written.entries hv
    refine lookup?_entryForms (h.keys.here entries rfl) fun entry hentry => ⟨?_, ?_⟩
    · rintro rfl
      exact Json.eq_str_of_keyText (hentries entry hentry).1 (h.floats.entry hv hentry).1.here hname
    · intro hkey
      rw [hkey]
      rfl

theorem IsStored.fieldOrNull_jsonForm {v : Value} (h : v.IsStored) {name : String}
    (hname : (Json.tokens name.toList).head? = some .stray) :
    v.jsonForm.fieldOrNull name = (v.fieldOrNull name).jsonForm := by
  rw [fieldOrNull, fieldOrNull, h.field?_jsonForm hname]
  cases v.field? name <;> rfl

theorem IsStored.filter_field?_jsonForm {v : Value} (h : v.IsStored) {name : String}
    (hname : (Json.tokens name.toList).head? = some .stray) :
    ((v.jsonForm.field? name).filter fun x => !x.isNull) =
      ((v.field? name).filter fun x => !x.isNull).map jsonForm := by
  rw [h.field?_jsonForm hname]
  cases v.field? name with
  | none => rfl
  | some x => cases hnull : x.isNull <;> simp [Option.filter, isNull_jsonForm, hnull]

theorem IsStored.tag?_jsonForm {v : Value} (h : v.IsStored) : v.jsonForm.tag? = v.tag? := by
  rw [tag?, tag?, h.field?_jsonForm (by decide)]
  cases v.field? "type" with
  | none => rfl
  | some type => cases type <;> rfl

theorem IsStored.isModified_jsonForm {v : Value} (h : v.IsStored) : v.jsonForm.isModified = v.isModified := by
  rw [isModified, isModified, h.tag?_jsonForm]

theorem keyList?_jsonForm (v : Value) : v.jsonForm.keyList? = v.keyList? := by
  have hitems (items : List Value) : (list (items.map jsonForm)).keyList? = (list items).keyList? := by
    induction items with
    | nil => rfl
    | cons item items ih =>
      simp only [keyList?, elements?, Option.bind_some, List.map_cons, List.mapM_cons] at ih ⊢
      rw [ih]
      cases item <;> rfl
  cases v with
  | list items | tuple items =>
    rw [jsonForm, elementForms_eq_map]
    exact hitems items
  | _ => rfl

theorem requiredNames?_jsonForm (v : Value) : Schema.requiredNames? v.jsonForm = Schema.requiredNames? v := by
  rw [Schema.requiredNames?, Schema.requiredNames?, isNull_jsonForm, keyList?_jsonForm]

end Value

namespace Schema

theorem declares_iff {entries : Entries} {names : List String} :
    declares (entries.map Property.ofEntry) names = true ↔ ∀ name ∈ names, .str name ∈ entries.keys := by
  rw [declares, List.all_eq_true]
  refine forall_congr' fun name => imp_congr_right fun _ => ?_
  rw [List.any_map, List.any_eq_true, Entries.keys, List.mem_map]
  exact exists_congr fun entry => and_congr_right fun _ => Value.sameKey_str_iff

theorem declares_entryForms {entries : Entries} {names : List String}
    (h : declares (entries.map Property.ofEntry) names = true) :
    declares ((Entries.ofPairs (Value.entryForms entries)).map Property.ofEntry) names = true := by
  rw [declares_iff] at h ⊢
  intro name hname
  obtain ⟨entry, hentry, hkey⟩ := List.mem_map.1 (h name hname)
  refine Entries.str_mem_keys_ofPairs ⟨(.str (Json.keyName entry.1), entry.2.jsonForm), ?_, ?_⟩
  · rw [Value.entryForms_eq_map]
    exact List.mem_map_of_mem hentry
  · rw [hkey]
    rfl

section Form

variable {v : Value}

theorem accepted_array_jsonForm {items : Value} (hv : v.IsStored) (htag : v.tag? = some "array")
    (hitems : v.field? "items" = some items) (h : items.elements? = none → Accepted items.jsonForm)
    (helements : ∀ elements, items.elements? = some elements → ∀ x ∈ elements, Accepted x.jsonForm) :
    Accepted v.jsonForm := by
  have htag := hv.tag?_jsonForm.trans htag
  have hfield : v.jsonForm.field? "items" = some items.jsonForm := by
    rw [hv.field?_jsonForm (by decide), hitems, Option.map_some]
  have hform := items.elements?_jsonForm
  cases hcase : items.elements? with
  | none =>
    rw [hcase] at hform
    exact accepted_array htag hfield hform (h hcase)
  | some elements =>
    rw [hcase] at hform
    refine accepted_tuple htag hfield hform fun x hx => ?_
    obtain ⟨y, hy, rfl⟩ := List.mem_map.1 hx
    exact helements elements hcase y hy

theorem accepted_record_jsonForm {values : Value} (hv : v.IsStored) (htag : v.tag? = some "object")
    (hvalues : ((v.field? "additionalProperties").filter fun x => !x.isNull) = some values)
    (h : Accepted values.jsonForm) : Accepted v.jsonForm := by
  refine accepted_record (hv.tag?_jsonForm.trans htag) ?_ h
  rw [hv.filter_field?_jsonForm (by decide), hvalues, Option.map_some]

theorem accepted_object_jsonForm {entries : Entries} (hv : v.IsStored) (htag : v.tag? = some "object")
    (hvalues : ((v.field? "additionalProperties").filter fun x => !x.isNull) = none)
    (hdeclared : v.field? "properties" = some (.dict entries))
    (hnode : (object (entries.map Property.ofEntry) (v.fieldOrNull "required")).isDefective = false)
    (h : ∀ entry ∈ entries, Accepted entry.2.jsonForm) : Accepted v.jsonForm := by
  obtain ⟨names, hrequired, hnames⟩ := exists_names_of_isDefective hnode
  have hnone : ((v.jsonForm.field? "additionalProperties").filter fun x => !x.isNull) = none := by
    rw [hv.filter_field?_jsonForm (by decide), hvalues, Option.map_none]
  have hform : v.jsonForm.field? "properties" = some (.ofPairs (Value.entryForms entries)) := by
    rw [hv.field?_jsonForm (by decide), hdeclared]
    rfl
  have hrequired : requiredNames? (v.jsonForm.fieldOrNull "required") = some names := by
    rw [hv.fieldOrNull_jsonForm (by decide), Value.requiredNames?_jsonForm, hrequired]
  refine accepted_object (hv.tag?_jsonForm.trans htag) hnone hform rfl hrequired (declares_entryForms hnames) ?_
  refine Entries.forall_ofPairs (P := fun key => ∃ text, key.plain = .ok text) (Q := Accepted) fun pair hpair => ?_
  rw [Value.entryForms_eq_map] at hpair
  obtain ⟨entry, hentry, rfl⟩ := List.mem_map.1 hpair
  exact ⟨⟨_, rfl⟩, h entry hentry⟩

theorem accepted_modified_jsonForm {item : Value} (hv : v.IsStored) (htag : v.tag? = some "modified")
    (hitem : v.field? "item" = some item) (hmodified : item.isModified = false) (h : Accepted item.jsonForm) :
    Accepted v.jsonForm := by
  refine accepted_modified (hv.tag?_jsonForm.trans htag) ?_ ((hv.field hitem).isModified_jsonForm.trans hmodified) h
  rw [hv.field?_jsonForm (by decide), hitem, Option.map_some]

/-- What a JSON text keeps of a schema that is well formed passes the check. -/
theorem accepted_jsonForm (hv : v.IsStored) (h : (ofValue v).WellFormed) : Accepted v.jsonForm := by
  induction hsize : sizeOf v using Nat.strongRecOn generalizing v with
  | ind n ih =>
    subst hsize
    have hof := ofNode?_of_isSchema (isSchema_of_isDefective h.here)
    generalize ofValue v = s at h hof
    unfold ofNode? at hof
    split at hof
    case h_1 htag | h_2 htag | h_3 htag | h_4 htag | h_5 htag | h_6 htag =>
      exact accepted_leaf (hv.tag?_jsonForm.trans htag) (by simp)
    case h_7 htag =>
      obtain ⟨items, hitems, rfl⟩ := Option.map_eq_some_iff.1 hof
      refine accepted_array_jsonForm hv htag hitems (fun hnone => ?_) fun elements helements x hx => ?_
      · rw [hnone] at h
        exact ih _ (Value.sizeOf_lt_of_field hitems) (hv.field hitems) h.of_array rfl
      · rw [helements] at h
        have hx' := Value.sizeOf_lt_of_element helements hx
        have hstored := (hv.field hitems).element helements hx
        exact ih _ (Nat.lt_trans hx' (Value.sizeOf_lt_of_field hitems)) hstored (h.of_tuple (List.mem_map_of_mem hx)) rfl
    case h_8 htag =>
      split at hof
      · next values hvalues =>
        cases hof
        have hfield := (Option.filter_eq_some_iff.1 hvalues).1
        exact accepted_record_jsonForm hv htag hvalues (ih _ (Value.sizeOf_lt_of_field hfield) (hv.field hfield) h.of_record rfl)
      · next hnone =>
        obtain ⟨entries, hentries, rfl⟩ := Option.map_eq_some_iff.1 hof
        obtain ⟨declared, hdeclared, hentries⟩ := Option.bind_eq_some_iff.1 hentries
        obtain ⟨rfl, -⟩ := (hv.field hdeclared).written.entries hentries
        refine accepted_object_jsonForm hv htag hnone hdeclared h.here fun entry hentry => ?_
        have hx' := Value.sizeOf_lt_of_entry hentries hentry
        have hstored := (hv.field hdeclared).entry hentries hentry
        have hschema := h.of_object (List.mem_map_of_mem hentry)
        exact ih _ (Nat.lt_trans hx' (Value.sizeOf_lt_of_field hdeclared)) hstored hschema rfl
    case h_9 htag =>
      obtain ⟨item, hitem, rfl⟩ := Option.map_eq_some_iff.1 hof
      obtain ⟨hitem, hgood⟩ := Option.filter_eq_some_iff.1 hitem
      rw [Bool.and_eq_true, Bool.not_eq_true'] at hgood
      exact accepted_modified_jsonForm hv htag hitem hgood.1 (ih _ (Value.sizeOf_lt_of_field hitem) (hv.field hitem) h rfl)
    case h_10 => cases hof

end Form

end Schema
end DataShape
