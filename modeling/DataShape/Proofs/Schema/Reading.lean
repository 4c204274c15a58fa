import DataShape.Proofs.Schema.Tree
import DataShape.Proofs.Value.Parts
import DataShape.Schema.Variant

/-! How a value is read as a schema: node by node, each by what it has under a few keys. The nodes of the
tree that is read are values inside the value that it is read from. -/

namespace DataShape

def Property.ofEntry (entry : Value × Value) : Property Schema :=
  ⟨entry.1, entry.2.isReadonly, Schema.ofValue entry.2⟩

namespace Schema

/-- The schema that a value is, if it is one, by what it has under the keys of schemas. -/
def ofNode? (v : Value) : Option Schema :=
  match v.tag? with
  | some "any" => some .any
  | some "boolean" => some .boolean
  | some "null" => some .null
  | some "number" => some (.number fun rule => v.fieldOrNull rule.key)
  | some "string" => some (.string fun rule => v.fieldOrNull rule.key)
  | some "undefined" => some .undefined
  | some "array" => (v.field? "items").map fun items =>
    match items.elements? with
    | some elements => .tuple (elements.map ofValue)
    | none => .array (ofValue items)
  | some "object" =>
    match (v.field? "additionalProperties").filter fun values => !values.isNull with
    | some values => some (.record (ofValue values))
    | none => ((v.field? "properties").bind Value.entries?).map fun entries =>
      .object (entries.map Property.ofEntry) (v.fieldOrNull "required")
  | some "modified" => ((v.field? "item").filter fun item => !item.isModified && item.isSchema).map ofValue
  | _ => none

theorem elementSchemas_eq_map (vs : List Value) : elementSchemas vs = vs.map ofValue := by
  induction vs with
  | nil => rfl
  | cons v vs ih => rw [elementSchemas, ih]; rfl

theorem elements?_reading (v : Value) : (reading v).elements? = v.elements?.map (List.map ofValue) := by
  cases v with
  | list items | tuple items => exact congrArg some (elementSchemas_eq_map items)
  | _ => rfl

theorem partReadings_eq_map (entries : Entries) :
    partReadings entries = entries.map fun entry => (entry.1, reading entry.2) := by
  induction entries with
  | nil => rfl
  | cons entry entries ih => rw [partReadings, ih]; rfl

theorem properties?_reading (v : Value) :
    (reading v).properties? = v.entries?.map (List.map Property.ofEntry) := by
  cases v with
  | dict entries | view entries =>
    simp only [reading, readingOfParts, partReadings_eq_map, List.map_map, Value.entries?, Option.map_some]
    refine congrArg some (List.map_congr_left fun entry _ => ?_)
    simp only [Function.comp, raw_reading]
    rfl
  | _ => rfl

theorem part?_partReadings {v : Value} {entries : Entries} (hv : v.entries? = some entries) (name : String) :
    part? (partReadings entries) name = (v.field? name).map reading := by
  simp only [part?, partReadings_eq_map, Value.field?, hv, Option.bind_some, Entries.lookup?, List.find?_map,
    Option.map_map]
  rfl

theorem option_partReadings_eq {v : Value} {entries : Entries} (hv : v.entries? = some entries)
    (name : String) : option (partReadings entries) name = v.fieldOrNull name := by
  simp only [option, part?_partReadings hv, Option.map_map, Value.fieldOrNull]
  cases v.field? name <;> simp

theorem array_of_parts (items : Value) :
    (match (reading items).elements? with
      | some elements => tuple elements
      | none => array (reading items).schema) =
    match items.elements? with
    | some elements => tuple (elements.map ofValue)
    | none => array (ofValue items) := by
  rw [elements?_reading]
  cases items.elements? <;> rfl

theorem modified_of_parts (item : Value) :
    (do if (reading item).raw.isModified then none
        match (reading item).schema with
        | .invalid _ => none
        | schema => some schema) =
    ((some item).filter fun item => !item.isModified && item.isSchema).map ofValue := by
  have hvalid (s : Schema) : (match s with | .invalid _ => none | schema => some schema) =
      if s.isValid then some s else none := by cases s <;> rfl
  simp only [raw_reading, hvalid, Option.filter, Value.isSchema, ofValue]
  by_cases hmodified : item.isModified <;> by_cases hschema : (reading item).schema.isValid <;>
    simp [hmodified, hschema, ofValue]

theorem object_of_parts (v : Value) (values declared : Option Value) :
    (match (values.map reading).filter fun values => !values.raw.isNull with
      | some values => some (Schema.record values.schema)
      | none => do
        let declared ← declared.map reading
        return Schema.object (← declared.properties?) (v.fieldOrNull "required")) =
    match values.filter fun values => !values.isNull with
    | some values => some (Schema.record (ofValue values))
    | none => (declared.bind Value.entries?).map fun entries =>
      Schema.object (entries.map Property.ofEntry) (v.fieldOrNull "required") := by
  have hvalues : ((values.map reading).filter fun values => !values.raw.isNull) =
      (values.filter fun values => !values.isNull).map reading := by
    cases values with
    | none => rfl
    | some values => simp only [Option.map_some, Option.filter, raw_reading]; split <;> rfl
  rw [hvalues]
  cases values.filter fun values => !values.isNull with
  | some values => rfl
  | none =>
    cases declared with
    | none => rfl
    | some declared =>
      simp only [Option.map_some, Option.map_none, Option.bind_eq_bind, Option.bind_some, properties?_reading]
      cases declared.entries? <;> rfl

theorem ofParts?_partReadings {v : Value} {entries : Entries} (hv : v.entries? = some entries) :
    ofParts? (partReadings entries) = ofNode? v := by
  have hoption := option_partReadings_eq hv
  cases htype : v.field? "type" with
  | none => simp [ofParts?, ofNode?, hoption, Value.fieldOrNull, Value.tag?, htype]
  | some type =>
    cases type with
    | str tag =>
      have hnull : v.fieldOrNull "type" = .str tag := by rw [Value.fieldOrNull, htype]; rfl
      have htag : v.tag? = some tag := by rw [Value.tag?, htype]
      rw [ofParts?, ofNode?, hoption, hnull, htag]
      split
      case h_1 h | h_2 h | h_3 h | h_6 h => cases h; rfl
      case h_4 h | h_5 h => cases h; simp only [hoption]
      case h_7 h =>
        cases h
        simp only [part?_partReadings hv, Option.map_map]
        exact congrArg (Option.map · _) (funext array_of_parts)
      case h_8 h =>
        cases h
        simp only [part?_partReadings hv, hoption]
        exact object_of_parts v _ _
      case h_9 h =>
        cases h
        simp only [part?_partReadings hv]
        cases v.field? "item" with
        | none => rfl
        | some item => exact modified_of_parts item
      case h_10 hother =>
        split <;> first | rfl | (next h => cases h; simp_all)
    | _ => simp [ofParts?, ofNode?, hoption, Value.fieldOrNull, Value.tag?, htype]

theorem ofValue_eq (v : Value) : ofValue v = (ofNode? v).getD (.invalid v) := by
  cases hv : v.entries? with
  | some entries =>
    rw [← ofParts?_partReadings hv]
    cases v <;> cases hv <;> rfl
  | none =>
    have htag : v.tag? = none := by simp [Value.tag?, Value.field?, hv]
    rw [ofNode?, htag]
    cases v <;> first | rfl | cases hv

theorem ofValue_of_ofNode? {v : Value} {s : Schema} (h : ofNode? v = some s) : ofValue v = s := by
  rw [ofValue_eq, h, Option.getD_some]

end Schema

theorem Variant.holds_iff {variant : Variant} {node : Value} :
    variant.holds node = true ↔ node.tag? = some variant.tag ∧ variant.fits node = true := by
  simp [holds]

namespace Value

/-- A mapping, without a wrapper around it, that holds a schema under a step. -/
inductive Holds (node : Value) : Step → Value → Prop
  | items {items : Value} (h : node.field? "items" = some items) : Holds node .items items
  | place {items item : Value} {elements : List Value} {i : Nat} (h : node.field? "items" = some items)
      (helements : items.elements? = some elements) (hitem : elements[i]? = some item) :
      Holds node (.index i) item
  | values {values : Value} (h : node.field? "additionalProperties" = some values) :
      Holds node .values values
  | property {declared : Value} {entries : Entries} {entry : Value × Value}
      (h : node.field? "properties" = some declared) (hentries : declared.entries? = some entries)
      (hentry : entry ∈ entries) : Holds node (.key entry.1) entry.2

/-- A value that some steps lead to, inside the schema that a value is. Wrappers are looked through. -/
inductive HasNode : Value → List Step → Value → Prop
  | root (v : Value) : HasNode v [] v
  | child {v node x w : Value} {step : Step} {location : List Step} (hnode : v.unwrap = .ok node)
      (hstep : node.Holds step x) (rest : HasNode x location w) : HasNode v (step :: location) w

theorem unwrap_eq_ok {v node : Value} (h : v.unwrap = .ok node) :
    node = v ∨ v.field? "item" = some node := by
  unfold unwrap at h
  split at h
  · split at h
    · next item hitem => exact .inr (Except.ok.inj h ▸ hitem)
    · cases h
  · exact .inl (Except.ok.inj h).symm

end Value

namespace Schema

theorem ofValue_unwrap {v : Value} (h : v.isSchema = true) :
    ∃ node, v.unwrap = .ok node ∧ node.isModified = false ∧ ofValue node = ofValue v := by
  cases hmodified : v.isModified with
  | false => exact ⟨v, by simp [Value.unwrap, hmodified], hmodified, rfl⟩
  | true =>
    have htag : v.tag? = some "modified" := by simpa [Value.isModified] using hmodified
    have hnode : ofNode? v = ((v.field? "item").filter fun item => !item.isModified && item.isSchema).map ofValue := by
      simp only [ofNode?, htag]
    cases hitem : (v.field? "item").filter fun item => !item.isModified && item.isSchema with
    | none =>
      rw [Value.isSchema, ofValue_eq, hnode, hitem] at h
      cases h
    | some item =>
      obtain ⟨hfield, hgood⟩ := Option.filter_eq_some_iff.1 hitem
      simp only [Bool.and_eq_true, Bool.not_eq_true'] at hgood
      refine ⟨item, by simp [Value.unwrap, hmodified, hfield], hgood.1, ?_⟩
      exact (ofValue_of_ofNode? (by rw [hnode, hitem]; rfl)).symm

theorem ofNode?_cases {node : Value} {s : Schema} (h : ofNode? node = some s) (hnode : node.isModified = false) :
    s.children = [] ∧ (∀ x ∈ s.data, ∃ name, x = node.fieldOrNull name) ∨
    (∃ items elements, node.field? "items" = some items ∧ items.elements? = some elements ∧
      s = .tuple (elements.map ofValue)) ∨
    (∃ items, node.field? "items" = some items ∧ items.elements? = none ∧ s = .array (ofValue items)) ∨
    (∃ values, node.field? "additionalProperties" = some values ∧ s = .record (ofValue values)) ∨
    ∃ declared entries, node.field? "properties" = some declared ∧ declared.entries? = some entries ∧
      s = .object (entries.map Property.ofEntry) (node.fieldOrNull "required") := by
  unfold ofNode? at h
  split at h
  case h_1 | h_2 | h_3 | h_6 => cases h; exact .inl ⟨rfl, by simp [data]⟩
  case h_4 | h_5 =>
    cases h
    refine .inl ⟨rfl, fun x hx => ?_⟩
    obtain ⟨rule, -, rfl⟩ := List.mem_map.1 hx
    exact ⟨rule.key, rfl⟩
  case h_7 =>
    obtain ⟨items, hitems, rfl⟩ := Option.map_eq_some_iff.1 h
    cases helements : items.elements? with
    | some elements => exact .inr (.inl ⟨items, elements, hitems, helements, rfl⟩)
    | none => exact .inr (.inr (.inl ⟨items, hitems, helements, rfl⟩))
  case h_8 =>
    split at h
    · next values hvalues =>
      cases h
      exact .inr (.inr (.inr (.inl ⟨values, (Option.filter_eq_some_iff.1 hvalues).1, rfl⟩)))
    · obtain ⟨entries, hentries, rfl⟩ := Option.map_eq_some_iff.1 h
      obtain ⟨declared, hdeclared, hentries⟩ := Option.bind_eq_some_iff.1 hentries
      exact .inr (.inr (.inr (.inr ⟨declared, entries, hdeclared, hentries, rfl⟩)))
  case h_9 htag => simp [Value.isModified, htag] at hnode
  case h_10 => cases h

theorem ofNode?_of_isSchema {v : Value} (h : v.isSchema = true) : ofNode? v = some (ofValue v) := by
  cases hnode : ofNode? v with
  | none =>
    rw [Value.isSchema, ofValue_eq, hnode] at h
    cases h
  | some s => rw [ofValue_of_ofNode? hnode]

theorem isValid_of_ofNode? {v : Value} {s : Schema} (h : ofNode? v = some s) : s.isValid = true := by
  unfold ofNode? at h
  split at h
  case h_1 | h_2 | h_3 | h_4 | h_5 | h_6 => cases h; rfl
  case h_7 =>
    obtain ⟨items, -, rfl⟩ := Option.map_eq_some_iff.1 h
    cases items.elements? <;> rfl
  case h_8 =>
    split at h
    · cases h; rfl
    · obtain ⟨entries, -, rfl⟩ := Option.map_eq_some_iff.1 h
      rfl
  case h_9 =>
    obtain ⟨item, hitem, rfl⟩ := Option.map_eq_some_iff.1 h
    have hgood := (Option.filter_eq_some_iff.1 hitem).2
    simp only [Bool.and_eq_true] at hgood
    exact hgood.2
  case h_10 => cases h

theorem eq_of_ofValue_eq_invalid {v w : Value} (h : ofValue v = .invalid w) : w = v := by
  cases hnode : ofNode? v with
  | none =>
    rw [ofValue_eq, hnode] at h
    cases h; rfl
  | some s =>
    have hvalid := isValid_of_ofNode? hnode
    rw [← ofValue_of_ofNode? hnode, h] at hvalid
    cases hvalid

theorem isSchema_eq_false_iff {v : Value} : v.isSchema = false ↔ ∃ w, ofValue v = .invalid w := by
  rw [Value.isSchema]
  cases ofValue v <;> simp [isValid]

theorem isSchema_of_ne_invalid {v : Value} (h : ∀ w, ofValue v ≠ .invalid w) : v.isSchema = true := by
  rw [← Bool.not_eq_false, isSchema_eq_false_iff]
  rintro ⟨w, hw⟩
  exact h w hw

/-- A value that is a schema has one of the shapes of schemas, inside its wrapper if there is one. -/
theorem ofValue_cases {v : Value} (h : v.isSchema = true) :
    ∃ node, v.unwrap = .ok node ∧ node.isModified = false ∧ ofNode? node = some (ofValue v) := by
  obtain ⟨node, hnode, hmodified, hvalue⟩ := ofValue_unwrap h
  refine ⟨node, hnode, hmodified, ?_⟩
  rw [← hvalue]
  exact ofNode?_of_isSchema (by rwa [Value.isSchema, hvalue])

/-- The children of the schema that a value is are read from values that it holds. -/
theorem exists_holds_of_mem_children {v : Value} {step : Step} {child : Schema}
    (h : (step, child) ∈ (ofValue v).children) :
    ∃ node x, v.unwrap = .ok node ∧ node.Holds step x ∧ ofValue x = child := by
  have hschema : v.isSchema = true := isSchema_of_ne_invalid fun w hw => by
    rw [hw] at h
    cases h
  obtain ⟨node, hnode, hmodified, hof⟩ := ofValue_cases hschema
  refine ⟨node, ?_⟩
  obtain ⟨hnil, -⟩ | ⟨items, elements, hitems, helements, hs⟩ | ⟨items, hitems, -, hs⟩ | ⟨values, hvalues, hs⟩ |
    ⟨declared, entries, hdeclared, hentries, hs⟩ := ofNode?_cases hof hmodified
  · rw [hnil] at h; cases h
  · rw [hs] at h
    obtain ⟨⟨item, i⟩, hitem, heq⟩ := List.mem_map.1 h
    cases heq
    rw [List.mk_mem_zipIdx_iff_getElem?, List.getElem?_map, Option.map_eq_some_iff] at hitem
    obtain ⟨x, hx, rfl⟩ := hitem
    exact ⟨x, hnode, .place hitems helements hx, rfl⟩
  · rw [hs] at h
    cases List.mem_singleton.1 h
    exact ⟨items, hnode, .items hitems, rfl⟩
  · rw [hs] at h
    cases List.mem_singleton.1 h
    exact ⟨values, hnode, .values hvalues, rfl⟩
  · rw [hs, children, List.map_map] at h
    obtain ⟨entry, hentry, heq⟩ := List.mem_map.1 h
    cases heq
    exact ⟨entry.2, hnode, .property hdeclared hentries hentry, rfl⟩

end Schema

namespace Value

variable {P : Value → Prop}

theorem Everywhere.node {v node : Value} (h : v.Everywhere P) (hnode : v.unwrap = .ok node) :
    node.Everywhere P := by
  rcases unwrap_eq_ok hnode with rfl | hitem
  · exact h
  · exact h.field hitem

theorem Everywhere.holds {node x : Value} {step : Step} (h : node.Everywhere P) (hstep : node.Holds step x) :
    x.Everywhere P := by
  cases hstep with
  | items hitems => exact h.field hitems
  | place hitems helements hitem => exact (h.field hitems).element helements (List.mem_of_getElem? hitem)
  | values hvalues => exact h.field hvalues
  | property hdeclared hentries hentry => exact ((h.field hdeclared).entry hentries hentry).2

end Value

namespace Schema

/-- What holds of everything that is no schema, and of every schema without a wrapper, in a value holds
everywhere in the schema that the value is. -/
theorem everywhere_of_nodes {P : Value → Prop} {Q : Schema → Prop}
    (hinvalid : ∀ v : Value, v.Everywhere P → Q (.invalid v))
    (hnode : ∀ node s, node.Everywhere P → node.isModified = false → ofNode? node = some s → Q s)
    {v : Value} (h : v.Everywhere P) : (ofValue v).Everywhere Q := by
  generalize hs : ofValue v = s
  induction s using induction_on_children generalizing v with
  | step s ih =>
    subst hs
    refine .intro ?_ fun child hchild => ?_
    · cases hv : ofValue v with
      | invalid w => exact eq_of_ofValue_eq_invalid hv ▸ hinvalid v h
      | _ =>
        obtain ⟨node, hunwrap, hmodified, hof⟩ := ofValue_cases (v := v) (by rw [Value.isSchema, hv]; rfl)
        exact hnode node _ (h.node hunwrap) hmodified (hv ▸ hof)
    · obtain ⟨node, x, hunwrap, hstep, hx⟩ := exists_holds_of_mem_children hchild
      exact ih child hchild ((h.node hunwrap).holds hstep) hx

/-- What holds everywhere in a value holds everywhere in the data of the schema that it is. -/
theorem everywhere_data {P : Value → Prop} (hnull : P .null) {v : Value} (h : v.Everywhere P) :
    (ofValue v).Everywhere fun s => ∀ x ∈ s.data, x.Everywhere P := by
  refine everywhere_of_nodes (fun v hv x hx => ?_) (fun node s hnode hmodified hof x hx => ?_) h
  · rwa [List.mem_singleton.1 hx]
  · obtain ⟨-, hdata⟩ | ⟨_, _, -, -, rfl⟩ | ⟨_, -, -, rfl⟩ | ⟨_, -, rfl⟩ |
      ⟨declared, entries, hdeclared, hentries, rfl⟩ := ofNode?_cases hof hmodified
    · obtain ⟨name, rfl⟩ := hdata x hx
      exact hnode.fieldOrNull hnull name
    · cases hx
    · cases hx
    · cases hx
    · rw [data, List.map_map] at hx
      rcases List.mem_cons.1 hx with rfl | hx
      · exact hnode.fieldOrNull hnull _
      · obtain ⟨entry, hentry, rfl⟩ := List.mem_map.1 hx
        exact ((hnode.field hdeclared).entry hentries hentry).1

end Schema
end DataShape
