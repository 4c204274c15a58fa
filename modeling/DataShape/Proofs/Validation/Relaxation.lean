import DataShape.Proofs.Schema.Relaxation
import DataShape.Proofs.Validation.Conformance
import DataShape.Proofs.Value.Keys

/-! What is accepted under a schema is accepted under every schema that it is relaxed to. Acceptance is described
variant by variant, without regard to options that cannot be used or keys that cannot be written. -/

namespace DataShape

theorem NumberRule.causes_of_left_out {rule : NumberRule} {option option' v : Value} {shown : String}
    (h : rule.causes option v shown = .ok []) (hoption : option' = option ∨ option' = .null) :
    rule.causes option' v shown = .ok [] := by
  rcases hoption with rfl | rfl
  · exact h
  · rfl

theorem TextRule.causes_of_left_out {rule : TextRule} {option option' : Value} {s : String}
    (h : rule.causes option s = .ok []) (hoption : option' = option ∨ option' = .null) :
    rule.causes option' s = .ok [] := by
  rcases hoption with rfl | rfl
  · exact h
  · cases rule <;> rfl

namespace Schema

def Accepts (s : Schema) (v : Value) : Prop := s.issues v = .ok []

theorem issues_part_eq_nil {part : Part} :
    part.issues = .ok [] ↔ (∃ text, part.step.text = .ok text) ∧ part.schema.Accepts part.value := by
  cases htext : part.step.text with
  | error e => simp [Part.issues, htext]
  | ok text => simpa [Accepts] using part_issues_eq_nil ⟨text, htext⟩

/-- A value is accepted if nothing is wrong with itself, and all its parts are accepted under steps that can be
written. -/
theorem accepts_iff {s : Schema} {v : Value} :
    s.Accepts v ↔ s.ownCauses v = .ok [] ∧
      ∀ part ∈ s.parts v, (∃ text, part.step.text = .ok text) ∧ part.schema.Accepts part.value := by
  have hbelow : partIssues (s.parts v) = .ok [] ↔
      ∀ part ∈ s.parts v, (∃ text, part.step.text = .ok text) ∧ part.schema.Accepts part.value := by
    simp only [partIssues, bind_eq_ok, pure_eq_ok, Except.ok.injEq, mapM_flatten_eq_nil, issues_part_eq_nil]
  rw [← hbelow, Accepts, issues_eq]
  cases s.ownCauses v with
  | error e => simp
  | ok own => cases partIssues (s.parts v) <;> simp

theorem accepts_any (v : Value) : Accepts .any v := accepts_iff.2 ⟨rfl, fun _ h => absurd h List.not_mem_nil⟩

theorem accepts_number_iff {options : NumberRule → Value} {v : Value} :
    (number options).Accepts v ↔ v.isNumber = true ∧ ∃ shown, v.numberText = .ok shown ∧
      ∀ rule : NumberRule, rule.causes (options rule) v shown = .ok [] := by
  rw [accepts_iff]
  cases hnumber : v.isNumber with
  | false => simp [ownCauses, hnumber, mistyped_ne_nil]
  | true =>
    simp only [ownCauses, parts, hnumber, if_true, numberCauses, bind_eq_ok, pure_eq_ok, Except.ok.injEq,
      mapM_flatten_eq_nil, NumberRule.mem_all, true_implies, List.not_mem_nil, false_implies, implies_true, and_true,
      true_and]

theorem accepts_string_iff {options : TextRule → Value} {v : Value} :
    (string options).Accepts v ↔ ∃ s, v = .str s ∧ ∀ rule : TextRule, rule.causes (options rule) s = .ok [] := by
  rw [accepts_iff]
  cases v with
  | str s =>
    simp only [ownCauses, parts, textCauses, bind_eq_ok, pure_eq_ok, Except.ok.injEq, mapM_flatten_eq_nil,
      TextRule.mem_all, true_implies, List.not_mem_nil, false_implies, implies_true, and_true, Value.str.injEq,
      exists_eq_left']
  | _ => simp [ownCauses, mistyped_ne_nil]

theorem accepts_array_iff {items : Schema} {v : Value} :
    (array items).Accepts v ↔ ∃ elements, v.elements? = some elements ∧ ∀ x ∈ elements, items.Accepts x := by
  rw [accepts_iff]
  rcases Option.eq_none_or_eq_some v.elements? with hv | ⟨elements, hv⟩
  · simp [ownCauses, Value.isSequence, hv, mistyped_ne_nil]
  · simp only [ownCauses, parts, Value.isSequence, hv, Option.isSome_some, if_true, pure_eq_ok, true_and,
      Option.map_some, Option.getD_some, Option.some.injEq, exists_eq_left']
    constructor
    · intro h x hx
      obtain ⟨i, hi⟩ := List.mem_iff_getElem?.1 hx
      exact (h _ (mem_elementParts.2 ⟨i, x, hi, rfl⟩)).2
    · intro h part hpart
      obtain ⟨i, x, hx, rfl⟩ := mem_elementParts.1 hpart
      exact ⟨⟨_, rfl⟩, h x (List.mem_of_getElem? hx)⟩

theorem accepts_tuple_iff {items : List Schema} {v : Value} :
    (tuple items).Accepts v ↔ ∃ elements, v.elements? = some elements ∧ elements.length = items.length ∧
      ∀ (i : Nat) (item : Schema) (x : Value), items[i]? = some item → elements[i]? = some x → item.Accepts x := by
  rw [accepts_iff]
  simp only [ownCauses, parts]
  cases v.elements? with
  | none => simp [mistyped_ne_nil]
  | some elements =>
    by_cases hlength : elements.length = items.length
    · simp only [hlength, if_true, pure_eq_ok, true_and, Option.map_some, Option.getD_some, Option.some.injEq,
        exists_eq_left']
      constructor
      · intro h i item x hitem hx
        exact (h _ (mem_placeParts.2 ⟨i, item, x, hitem, hx, rfl⟩)).2
      · intro h part hpart
        obtain ⟨i, item, x, hitem, hx, rfl⟩ := mem_placeParts.1 hpart
        exact ⟨⟨_, rfl⟩, h i item x hitem hx⟩
    · simp [hlength]

theorem accepts_record_iff {values : Schema} {v : Value} :
    (record values).Accepts v ↔ ∃ entries, v.entries? = some entries ∧
      ∀ entry ∈ entries, (∃ text, entry.1.plain = .ok text) ∧ values.Accepts entry.2 := by
  rw [accepts_iff]
  rcases Option.eq_none_or_eq_some v.entries? with hv | ⟨entries, hv⟩
  · simp [ownCauses, Value.isMapping, hv, mistyped_ne_nil]
  · simp only [ownCauses, parts, Value.isMapping, hv, Option.isSome_some, if_true, pure_eq_ok, true_and,
      Option.map_some, Option.getD_some, Option.some.injEq, exists_eq_left']
    constructor
    · exact fun h entry hentry => h _ (mem_entryParts.2 ⟨entry, hentry, rfl⟩)
    · intro h part hpart
      obtain ⟨entry, hentry, rfl⟩ := mem_entryParts.1 hpart
      exact h entry hentry

theorem accepts_object_iff {properties : List (Property Schema)} {required v : Value} {names : List String}
    (hnames : requiredNames? required = some names) :
    (object properties required).Accepts v ↔ ∃ entries, v.entries? = some entries ∧
      (∀ name ∈ names, Entries.hasKey entries (.str name) = true) ∧
      ∀ entry ∈ entries, (∃ text, entry.1.plain = .ok text) ∧
        ∃ property, propertyFor? properties entry.1 = some property ∧ property.schema.Accepts entry.2 := by
  rw [accepts_iff]
  simp only [ownCauses, parts, hnames]
  cases v.entries? with
  | none => simp [mistyped_ne_nil]
  | some entries =>
    simp only [keyCauses_eq_nil, Option.isSome_some, if_true, Option.map_some, Option.getD_some, Option.some.injEq,
      exists_eq_left', and_assoc]
    refine and_congr_right fun _ => ?_
    constructor
    · rintro ⟨hdeclared, hparts⟩ entry hentry
      obtain ⟨property, hproperty⟩ := hdeclared entry hentry
      obtain ⟨htext, haccepts⟩ := hparts _ (mem_propertyParts.2 ⟨entry, hentry, property, hproperty, rfl⟩)
      exact ⟨htext, property, hproperty, haccepts⟩
    · intro h
      refine ⟨fun entry hentry => ?_, fun part hpart => ?_⟩
      · obtain ⟨-, property, hproperty, -⟩ := h entry hentry
        exact ⟨property, hproperty⟩
      · obtain ⟨entry, hentry, property, hproperty, rfl⟩ := mem_propertyParts.1 hpart
        obtain ⟨htext, found, hfound, haccepts⟩ := h entry hentry
        rw [hproperty] at hfound
        cases hfound
        exact ⟨htext, haccepts⟩

/-- A mapping that is accepted under some properties is accepted under others if each of its entries is, and no
name is required anew. -/
theorem accepts_object_of_declared {as bs : Entries} {required required' v : Value} {names names' : List String}
    (hnames : requiredNames? required = some names) (hnames' : requiredNames? required' = some names')
    (hfewer : names' ⊆ names)
    (hdeclared : ∀ (key x : Value) (a : Value × Value), as.find? (fun entry => entry.1.sameKey key) = some a →
      (ofValue a.2).Accepts x →
        ∃ b, bs.find? (fun entry => entry.1.sameKey key) = some b ∧ (ofValue b.2).Accepts x)
    (h : (object (as.map Property.ofEntry) required).Accepts v) :
    (object (bs.map Property.ofEntry) required').Accepts v := by
  obtain ⟨entries, hentries, hhas, hall⟩ := (accepts_object_iff hnames).1 h
  refine (accepts_object_iff hnames').2 ⟨entries, hentries, fun name hname => hhas name (hfewer hname), ?_⟩
  intro entry hentry
  obtain ⟨htext, property, hproperty, haccepts⟩ := hall entry hentry
  rw [propertyFor?_map_ofEntry, Option.map_eq_some_iff] at hproperty
  obtain ⟨a, ha, rfl⟩ := hproperty
  obtain ⟨b, hb, hbaccepts⟩ := hdeclared entry.1 entry.2 a ha haccepts
  exact ⟨htext, Property.ofEntry b, by rw [propertyFor?_map_ofEntry, hb]; rfl, hbaccepts⟩

end Schema

/-- What is accepted under a schema is accepted under a schema that it is relaxed to. -/
theorem Value.RelaxesTo.accepts {s t : Value} (h : s.RelaxesTo t) {v : Value}
    (hv : (Schema.ofValue s).Accepts v) : (Schema.ofValue t).Accepts v := by
  induction h generalizing v with
  | refl s => exact hv
  | trans first second ihfirst ihsecond => exact ihsecond (ihfirst hv)
  | any ht =>
    rw [Schema.ofValue_any ht]
    exact Schema.accepts_any v
  | number hs ht options =>
    rw [Schema.ofValue_number hs, Schema.accepts_number_iff] at hv
    rw [Schema.ofValue_number ht, Schema.accepts_number_iff]
    obtain ⟨hnumber, shown, hshown, hrules⟩ := hv
    exact ⟨hnumber, shown, hshown, fun rule => rule.causes_of_left_out (hrules rule) (options rule)⟩
  | string hs ht options =>
    rw [Schema.ofValue_string hs, Schema.accepts_string_iff] at hv
    rw [Schema.ofValue_string ht, Schema.accepts_string_iff]
    obtain ⟨s, rfl, hrules⟩ := hv
    exact ⟨s, rfl, fun rule => rule.causes_of_left_out (hrules rule) (options rule)⟩
  | array hs ht _ ih =>
    rw [Schema.ofValue_array hs, Schema.accepts_array_iff] at hv
    rw [Schema.ofValue_array ht, Schema.accepts_array_iff]
    obtain ⟨elements, helements, hall⟩ := hv
    exact ⟨elements, helements, fun x hx => ih (hall x hx)⟩
  | @tuple s t as bs hs ht hlength _ ih =>
    rw [Schema.ofValue_tuple hs, Schema.accepts_tuple_iff] at hv
    rw [Schema.ofValue_tuple ht, Schema.accepts_tuple_iff]
    obtain ⟨elements, helements, hcount, hall⟩ := hv
    refine ⟨elements, helements, by simpa [hlength] using hcount, fun i item x hitem hx => ?_⟩
    rw [List.getElem?_map, Option.map_eq_some_iff] at hitem
    obtain ⟨b, hb, rfl⟩ := hitem
    obtain ⟨a, ha⟩ : ∃ a, as[i]? = some a := by
      have hi := (List.getElem?_eq_some_iff.1 hb).1
      exact ⟨_, List.getElem?_eq_getElem (hlength ▸ hi)⟩
    exact ih i a b ha hb (hall i _ x (by rw [List.getElem?_map, ha]; rfl) hx)
  | record hs ht _ ih =>
    rw [Schema.ofValue_record hs, Schema.accepts_record_iff] at hv
    rw [Schema.ofValue_record ht, Schema.accepts_record_iff]
    obtain ⟨entries, hentries, hall⟩ := hv
    exact ⟨entries, hentries, fun entry hentry => ⟨(hall entry hentry).1, ih (hall entry hentry).2⟩⟩
  | @tupleToArray s t b as hs ht _ ih =>
    rw [Schema.ofValue_tuple hs, Schema.accepts_tuple_iff] at hv
    rw [Schema.ofValue_array ht, Schema.accepts_array_iff]
    obtain ⟨elements, helements, hcount, hall⟩ := hv
    refine ⟨elements, helements, fun x hx => ?_⟩
    obtain ⟨i, hi⟩ := List.mem_iff_getElem?.1 hx
    have hlt : i < as.length := by
      have hlt := (List.getElem?_eq_some_iff.1 hi).1
      rwa [hcount, List.length_map] at hlt
    have hplace : (as.map Schema.ofValue)[i]? = some (Schema.ofValue as[i]) := by
      rw [List.getElem?_map, List.getElem?_eq_getElem hlt, Option.map_some]
    exact ih as[i] (List.getElem_mem hlt) (hall i _ x hplace hi)
  | properties hs ht hkeys _ ih =>
    rw [Schema.ofValue_object hs] at hv
    rw [Schema.ofValue_object ht]
    refine Schema.accepts_object_of_declared hs.required_eq ht.required_eq (List.Subset.refl _)
      (fun key x a ha haccepts => ?_) hv
    obtain ⟨i, b, hai, hbi, hb⟩ := Entries.find?_of_keys_eq hkeys ha
    exact ⟨b, hb, ih i a b hai hbi haccepts⟩
  | fewerRequired hs ht hfewer =>
    rw [Schema.ofValue_object hs] at hv
    rw [Schema.ofValue_object ht]
    exact Schema.accepts_object_of_declared hs.required_eq ht.required_eq hfewer
      (fun key x a ha haccepts => ⟨a, ha, haccepts⟩) hv
  | furtherProperties hs ht hfurther hdistinct =>
    rw [Schema.ofValue_object hs] at hv
    rw [Schema.ofValue_object ht]
    refine Schema.accepts_object_of_declared hs.required_eq ht.required_eq (List.Subset.refl _)
      (fun key x a ha haccepts => ⟨a, ?_, haccepts⟩) hv
    have hsame : a.1.sameKey key = true := by simpa using List.find?_some ha
    exact Entries.find?_eq_some_of_distinct hdistinct (hfurther (List.mem_of_find?_eq_some ha)) hsame
  | objectToRecord hs ht _ ih =>
    rw [Schema.ofValue_object hs, Schema.accepts_object_iff hs.required_eq] at hv
    rw [Schema.ofValue_record ht, Schema.accepts_record_iff]
    obtain ⟨entries, hentries, -, hall⟩ := hv
    refine ⟨entries, hentries, fun entry hentry => ?_⟩
    obtain ⟨htext, property, hproperty, haccepts⟩ := hall entry hentry
    rw [Schema.propertyFor?_map_ofEntry, Option.map_eq_some_iff] at hproperty
    obtain ⟨a, ha, rfl⟩ := hproperty
    exact ⟨htext, ih a (List.mem_of_find?_eq_some ha) haccepts⟩
  | wrap hs => rwa [Schema.ofValue_wrapper hs]
  | unwrap hs => rwa [← Schema.ofValue_wrapper hs]

/-- Validation finds nothing under a schema that another is relaxed to where it finds nothing under that one. -/
theorem validate_eq_nil_of_relaxesTo {s t v : Value} {path : String} (h : s.RelaxesTo t)
    (hv : validate s v path = .ok []) : validate t v path = .ok [] := by
  have hiff (s : Value) : validate s v path = .ok [] ↔ (Schema.ofValue s).Accepts v := by
    rw [validate, Schema.Accepts]
    cases (Schema.ofValue s).issues v <;> simp
  exact (hiff t).2 (h.accepts ((hiff s).1 hv))

/-- An object with a pair of texts, the first limited and the second in a wrapper, is relaxed to a record of arrays
of texts. -/
theorem validate_names_eq_nil :
    validate (.ofFields [("type", .str "object"), ("properties", .ofFields [("names", .ofFields [
        ("type", .str "array"), ("items", .list [.ofFields [("type", .str "string"), ("maxLength", .int 3)],
          .ofFields [("type", .str "modified"), ("item", .ofFields [("type", .str "string")])]])])]),
        ("required", .list [.str "names"])])
      (.ofFields [("names", .tuple [.str "Ada", .str "Byron"])]) "" = .ok [] ∧
    validate (.ofFields [("type", .str "object"), ("additionalProperties", .ofFields [
        ("type", .str "array"), ("items", .ofFields [("type", .str "string")])])])
      (.ofFields [("names", .tuple [.str "Ada", .str "Byron"])]) "" = .ok [] := by
  refine (fun haccepted => ⟨haccepted, validate_eq_nil_of_relaxesTo ?_ haccepted⟩) rfl
  refine .objectToRecord ⟨rfl, rfl, rfl⟩ ⟨rfl, rfl⟩ fun property hproperty => ?_
  obtain rfl := List.mem_singleton.1 hproperty
  refine .tupleToArray ⟨rfl, rfl⟩ ⟨rfl, rfl⟩ fun place hplace => ?_
  rcases List.mem_pair.1 hplace with rfl | rfl
  · refine .string rfl rfl fun rule => ?_
    cases rule
    · exact .inr rfl
    · exact .inl rfl
    · exact .inl rfl
  · exact .unwrap ⟨rfl, rfl, rfl⟩

end DataShape
