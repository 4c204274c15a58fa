import DataShape.Proofs.Schema.Construction
import DataShape.Proofs.Validation.Conformance
import DataShape.Proofs.Validation.Likeness

/-! One schema for all parts of a value. To give the schema once, for all elements or all values, and to give it again
at each place, or under each key that there is, leads to the same issues in the same order. -/

namespace DataShape

namespace Schema

theorem issues_placeParts_replicate (s : Schema) (elements : List Value) (index : Nat) :
    (placeParts (List.replicate elements.length s) elements index).map Part.issues =
      (elementParts s elements index).map Part.issues := by
  induction elements generalizing index with
  | nil => rfl
  | cons v vs ih =>
    have hrest := ih (index + 1)
    simp only [placeParts, elementParts] at hrest ⊢
    simp only [List.length_cons, List.replicate_succ, List.zip_cons_cons, List.zipIdx_cons, List.map_cons, Part.issues,
      hrest]

/-- An array says of its elements what a tuple says that has the same schema at each place. -/
theorem issues_array_eq_tuple {v : Value} {elements : List Value} (s : Schema) (hv : v.elements? = some elements) :
    (array s).issues v = (tuple (List.replicate elements.length s)).issues v := by
  refine issues_congr ?_ ?_
  · simp [ownCauses, Value.isSequence, hv]
  · simp only [parts, hv, Option.map_some, Option.getD_some, List.length_replicate, if_true,
      issues_placeParts_replicate]

/-- A record says of its values what an object says that declares the same schema for each key. -/
theorem issues_record_eq_object {v : Value} {entries : Entries} {s : Schema} {properties : List (Property Schema)}
    (hv : v.entries? = some entries)
    (hdeclared : ∀ entry ∈ entries, ∃ property, propertyFor? properties entry.1 = some property ∧ property.schema = s) :
    (record s).issues v = (object properties .null).issues v := by
  have hnames : requiredNames? .null = some [] := rfl
  refine issues_congr ?_ ?_
  · simp only [ownCauses, Value.isMapping, hv, Option.isSome_some, if_true, hnames]
    refine (keyCauses_eq_nil.2 ⟨fun _ h => absurd h List.not_mem_nil, fun entry hentry => ?_⟩).symm
    obtain ⟨property, hproperty, -⟩ := hdeclared entry hentry
    exact ⟨property, hproperty⟩
  · simp only [parts, hv, Option.map_some, Option.getD_some, hnames, Option.isSome_some, if_true, entryParts,
      propertyParts, List.map_filterMap, List.map_map]
    -- Every entry is declared, so the object leaves out none of those that the record goes through.
    rw [← List.filterMap_eq_map]
    refine List.filterMap_congr fun entry hentry => ?_
    obtain ⟨property, hproperty, rfl⟩ := hdeclared entry hentry
    simp only [hproperty, Option.map_some, Function.comp_apply, Part.issues]

end Schema

/-- One child schema for all elements, or for all values, says what it says at each place, or under each key. -/
theorem validate_one_schema_for_all {t : Value} (ht : t.isMapping = true) (path : String) :
    (∀ (v : Value) (elements : List Value), v.elements? = some elements →
      validate (.ofFields [("type", .str "array"), ("items", t)]) v path =
        validate (.ofFields [("type", .str "array"), ("items", .list (List.replicate elements.length t))]) v path) ∧
    ∀ (v : Value) (entries : Entries), v.entries? = some entries →
      (∀ key ∈ entries.keys, key.unhashable? = none) →
        validate (.ofFields [("type", .str "object"), ("additionalProperties", t)]) v path =
          validate (.ofFields [("type", .str "object"),
            ("properties", .ofPairs (entries.keys.map fun key => (key, t)))]) v path := by
  obtain ⟨fields, hfields⟩ := Option.isSome_iff_exists.1 ht
  constructor
  · intro v elements hv
    have harray := Schema.ofValue_array (Builder.isArrayOf_array (Value.elements?_of_entries? hfields))
    have htuple := Schema.ofValue_tuple (Builder.isTupleOf_tuple (List.replicate elements.length t))
    -- Whatever stands in the child, it is a mapping, so the items are those of an array and not of a tuple.
    show validate (Builder.array t) v path = validate (Builder.tuple _) v path
    rw [validate, validate, harray, htuple, List.map_replicate, Schema.issues_array_eq_tuple _ hv]
  · intro v entries hv hkeys
    have hnull : t.isNull = false := by
      cases t <;> first | rfl | cases hfields
    have hrecord := Schema.ofValue_record (Builder.isRecordOf_record hnull)
    have hobject : (Value.ofFields [("type", .str "object"),
        ("properties", .ofPairs (entries.keys.map fun key => (key, t)))]).IsObjectOf
        (Entries.ofPairs (entries.keys.map fun key => (key, t))) [] := ⟨rfl, rfl, rfl⟩
    show validate (Builder.record t) v path = _
    rw [validate, validate, hrecord, Schema.ofValue_object hobject]
    refine congrArg (fun found : Outcome (List Issue) => found >>= _) (Schema.issues_record_eq_object hv ?_)
    intro entry hentry
    have hmem : entry.1 ∈ entries.keys := List.mem_map_of_mem hentry
    obtain ⟨declared, hdeclared, rfl⟩ := Entries.exists_find?_ofPairs (Value.sameKey_self (hkeys _ hmem)) hmem t
    exact ⟨Property.ofEntry declared, by rw [Schema.propertyFor?_map_ofEntry, hdeclared]; rfl, rfl⟩

/-- An array that does not say what its items are. -/
def arrayOfNothing : Value := .ofFields [("type", .str "array")]

/-- Keys that are alike: a number, the text of it, and a tuple. -/
def alikeKeys : Entries := [(.int 1, .null), (.str "1", .null), (.tuple [.bool true], .null)]

/-- A child schema without items says the same of each element at each place, and of each value under keys that are
alike. -/
theorem validate_malformed_child_for_all :
    validate (.ofFields [("type", .str "array"), ("items", arrayOfNothing)]) (.tuple [.int 1, .str "1"]) "/rows" =
      validate (.ofFields [("type", .str "array"), ("items", .list [arrayOfNothing, arrayOfNothing])])
        (.tuple [.int 1, .str "1"]) "/rows" ∧
    validate (.ofFields [("type", .str "object"), ("additionalProperties", arrayOfNothing)]) (.dict alikeKeys) "/rows" =
      validate (.ofFields [("type", .str "object"), ("properties", .ofPairs [(.int 1, arrayOfNothing),
        (.str "1", arrayOfNothing), (.tuple [.bool true], arrayOfNothing)])]) (.dict alikeKeys) "/rows" := by
  have hall := validate_one_schema_for_all (t := arrayOfNothing) rfl "/rows"
  have helements := hall.1 (.tuple [.int 1, .str "1"]) _ rfl
  have hkeyed := hall.2 (.dict alikeKeys) _ rfl
  refine ⟨helements, hkeyed ?_⟩
  simp [alikeKeys, Entries.keys, Value.unhashable?, Value.unhashable?.unhashableAmong?]

end DataShape
