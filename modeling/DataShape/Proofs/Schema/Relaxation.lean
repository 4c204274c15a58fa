import DataShape.Proofs.Schema.Reading

/-! Relaxing a schema: leaving constraints out, requiring fewer properties or declaring further ones, giving
up the places of a tuple or the names of an object, at any depth. Wrappers make no difference either way. -/

namespace DataShape
namespace Value

structure IsArrayOf (s items : Value) : Prop where
  holds : Variant.array.holds s = true
  items_eq : s.field? "items" = some items

structure IsTupleOf (s : Value) (items : List Value) : Prop where
  holds : Variant.tuple.holds s = true
  items_eq : (s.field? "items").bind elements? = some items

structure IsRecordOf (s values : Value) : Prop where
  holds : Variant.record.holds s = true
  values_eq : s.field? "additionalProperties" = some values

/-- A schema of objects, with the properties that it declares and the names that it requires. -/
structure IsObjectOf (s : Value) (properties : Entries) (required : List String) : Prop where
  holds : Variant.object.holds s = true
  properties_eq : (s.field? "properties").bind entries? = some properties
  required_eq : Schema.requiredNames? (s.fieldOrNull "required") = some required

/-- A wrapper around a schema. -/
structure IsWrapperOf (s item : Value) : Prop where
  isModified : s.isModified = true
  isSchema : s.isSchema = true
  item_eq : s.field? "item" = some item

/-- A schema is relaxed to another. -/
inductive RelaxesTo : Value → Value → Prop
  | refl (s : Value) : RelaxesTo s s
  | trans {s t u : Value} (first : RelaxesTo s t) (second : RelaxesTo t u) : RelaxesTo s u
  | any {s t : Value} (ht : Variant.any.holds t = true) : RelaxesTo s t
  /-- Each constraint on numbers stays as it is or is left out. -/
  | number {s t : Value} (hs : Variant.number.holds s = true) (ht : Variant.number.holds t = true)
      (options : ∀ rule : NumberRule,
        t.fieldOrNull rule.key = s.fieldOrNull rule.key ∨ t.fieldOrNull rule.key = .null) : RelaxesTo s t
  /-- Each constraint on texts stays as it is or is left out. -/
  | string {s t : Value} (hs : Variant.string.holds s = true) (ht : Variant.string.holds t = true)
      (options : ∀ rule : TextRule,
        t.fieldOrNull rule.key = s.fieldOrNull rule.key ∨ t.fieldOrNull rule.key = .null) : RelaxesTo s t
  | array {s t a b : Value} (hs : s.IsArrayOf a) (ht : t.IsArrayOf b) (items : RelaxesTo a b) : RelaxesTo s t
  | tuple {s t : Value} {as bs : List Value} (hs : s.IsTupleOf as) (ht : t.IsTupleOf bs)
      (hlength : as.length = bs.length)
      (places : ∀ (i : Nat) (a b : Value), as[i]? = some a → bs[i]? = some b → RelaxesTo a b) : RelaxesTo s t
  | record {s t a b : Value} (hs : s.IsRecordOf a) (ht : t.IsRecordOf b) (values : RelaxesTo a b) : RelaxesTo s t
  /-- A tuple is relaxed to an array if each place is relaxed to the items. -/
  | tupleToArray {s t b : Value} {as : List Value} (hs : s.IsTupleOf as) (ht : t.IsArrayOf b)
      (places : ∀ a ∈ as, RelaxesTo a b) : RelaxesTo s t
  | properties {s t : Value} {as bs : Entries} {required : List String} (hs : s.IsObjectOf as required)
      (ht : t.IsObjectOf bs required) (hkeys : as.keys = bs.keys)
      (values : ∀ (i : Nat) (a b : Value × Value), as[i]? = some a → bs[i]? = some b → RelaxesTo a.2 b.2) : RelaxesTo s t
  | fewerRequired {s t : Value} {as : Entries} {required required' : List String} (hs : s.IsObjectOf as required)
      (ht : t.IsObjectOf as required') (hfewer : required' ⊆ required) : RelaxesTo s t
  /-- Further properties are declared, among or after the others, with keys of their own. -/
  | furtherProperties {s t : Value} {as bs : Entries} {required : List String} (hs : s.IsObjectOf as required)
      (ht : t.IsObjectOf bs required) (hfurther : as ⊆ bs)
      (hdistinct : bs.keys.Pairwise fun a b => a.sameKey b = false) : RelaxesTo s t
  /-- An object is relaxed to a record if what is declared under each key is relaxed to the values. -/
  | objectToRecord {s t b : Value} {as : Entries} {required : List String} (hs : s.IsObjectOf as required)
      (ht : t.IsRecordOf b) (declared : ∀ a ∈ as, RelaxesTo a.2 b) : RelaxesTo s t
  | wrap {s item : Value} (hs : s.IsWrapperOf item) : RelaxesTo item s
  | unwrap {s item : Value} (hs : s.IsWrapperOf item) : RelaxesTo s item

end Value

namespace Schema

theorem ofValue_any {s : Value} (h : Variant.any.holds s = true) : ofValue s = .any := by
  obtain ⟨htag, -⟩ := Variant.holds_iff.1 h
  exact ofValue_of_ofNode? (by simp [ofNode?, htag, Variant.tag, Variant.name])

theorem ofValue_number {s : Value} (h : Variant.number.holds s = true) :
    ofValue s = .number fun rule => s.fieldOrNull rule.key := by
  obtain ⟨htag, -⟩ := Variant.holds_iff.1 h
  exact ofValue_of_ofNode? (by simp [ofNode?, htag, Variant.tag, Variant.name])

theorem ofValue_string {s : Value} (h : Variant.string.holds s = true) :
    ofValue s = .string fun rule => s.fieldOrNull rule.key := by
  obtain ⟨htag, -⟩ := Variant.holds_iff.1 h
  exact ofValue_of_ofNode? (by simp [ofNode?, htag, Variant.tag, Variant.name])

theorem ofValue_array {s items : Value} (h : s.IsArrayOf items) : ofValue s = .array (ofValue items) := by
  obtain ⟨htag, hfits⟩ := Variant.holds_iff.1 h.holds
  have helements : items.elements? = none := by
    simpa [Variant.fits, Value.fieldOrNull, h.items_eq, Value.isSequence] using hfits
  exact ofValue_of_ofNode? (by simp [ofNode?, htag, Variant.tag, Variant.name, h.items_eq, helements])

theorem ofValue_tuple {s : Value} {items : List Value} (h : s.IsTupleOf items) :
    ofValue s = .tuple (items.map ofValue) := by
  obtain ⟨htag, -⟩ := Variant.holds_iff.1 h.holds
  obtain ⟨x, hx, helements⟩ := Option.bind_eq_some_iff.1 h.items_eq
  exact ofValue_of_ofNode? (by simp [ofNode?, htag, Variant.tag, hx, helements])

theorem filter_values_of_record {s values : Value} (h : s.IsRecordOf values) :
    (s.field? "additionalProperties").filter (fun values => !values.isNull) = some values := by
  obtain ⟨-, hfits⟩ := Variant.holds_iff.1 h.holds
  have hnull : values.isNull = false := by
    simpa [Variant.fits, Value.fieldOrNull, h.values_eq] using hfits
  simp [h.values_eq, Option.filter, hnull]

theorem filter_values_of_object {s : Value} (h : Variant.object.holds s = true) :
    (s.field? "additionalProperties").filter (fun values => !values.isNull) = none := by
  obtain ⟨-, hfits⟩ := Variant.holds_iff.1 h
  cases hvalues : s.field? "additionalProperties" with
  | none => rfl
  | some values => simpa [Variant.fits, Value.fieldOrNull, hvalues, Option.filter] using hfits

theorem ofValue_record {s values : Value} (h : s.IsRecordOf values) : ofValue s = .record (ofValue values) := by
  obtain ⟨htag, -⟩ := Variant.holds_iff.1 h.holds
  exact ofValue_of_ofNode? (by simp only [ofNode?, htag, Variant.tag, filter_values_of_record h])

theorem ofValue_object {s : Value} {properties : Entries} {required : List String}
    (h : s.IsObjectOf properties required) :
    ofValue s = .object (properties.map Property.ofEntry) (s.fieldOrNull "required") := by
  obtain ⟨htag, -⟩ := Variant.holds_iff.1 h.holds
  exact ofValue_of_ofNode? (by
    simp only [ofNode?, htag, Variant.tag, Variant.name, filter_values_of_object h.holds, h.properties_eq,
      Option.map_some])

theorem ofValue_wrapper {s item : Value} (h : s.IsWrapperOf item) : ofValue s = ofValue item := by
  obtain ⟨node, hnode, -, hvalue⟩ := ofValue_unwrap h.isSchema
  rw [Value.unwrap, if_pos h.isModified, h.item_eq] at hnode
  cases hnode
  exact hvalue.symm

end Schema
end DataShape
