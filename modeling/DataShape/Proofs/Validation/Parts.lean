import DataShape.Proofs.Schema.Reading
import DataShape.Proofs.Value.Limit
import DataShape.Validation.Basic

/-! The parts of a value that validation goes into: which they are, under which schema each is checked,
and by which step it is reported. The issues of a value are its own and those of its parts, in order;
whatever is proved of validation is proved from there. -/

namespace DataShape

/-- A part of a value that is checked, with the steps that lead to its schema and to itself. -/
structure Part where
  origin : Step
  step : Step
  schema : Schema
  value : Value

def Part.issues (part : Part) : Outcome (List Issue) := do
  let step ← part.step.text
  let found ← part.schema.issues part.value
  return Schema.atStep step found

namespace Schema

/-- The property that is declared for a key. -/
def propertyFor? (properties : List (Property Schema)) (key : Value) : Option (Property Schema) :=
  properties.find? (·.key.sameKey key)

theorem propertyFor?_map_ofEntry (entries : Entries) (key : Value) :
    propertyFor? (entries.map Property.ofEntry) key =
      (entries.find? fun entry => entry.1.sameKey key).map Property.ofEntry := by
  rw [propertyFor?, List.find?_map]
  rfl

def elementParts (items : Schema) (elements : List Value) (index : Nat) : List Part :=
  (elements.zipIdx index).map fun (v, i) => ⟨.items, .index i, items, v⟩

def placeParts (items : List Schema) (elements : List Value) (index : Nat) : List Part :=
  ((items.zip elements).zipIdx index).map fun ((item, v), i) => ⟨.index i, .index i, item, v⟩

def entryParts (values : Schema) (entries : Entries) : List Part :=
  entries.map fun entry => ⟨.values, .key entry.1, values, entry.2⟩

def propertyParts (properties : List (Property Schema)) (entries : Entries) : List Part :=
  entries.filterMap fun entry =>
    (propertyFor? properties entry.1).map fun property =>
      ⟨.key property.key, .key entry.1, property.schema, entry.2⟩

/-- The parts of a value that are checked under a schema, in the order of the value. -/
def parts : Schema → Value → List Part
  | .array items, v => (v.elements?.map fun elements => elementParts items elements 0).getD []
  | .tuple items, v =>
    (v.elements?.map fun elements =>
      if elements.length = items.length then placeParts items elements 0 else []).getD []
  | .record values, v => (v.entries?.map (entryParts values)).getD []
  | .object properties required, v =>
    (v.entries?.map fun entries =>
      if (requiredNames? required).isSome then propertyParts properties entries else []).getD []
  | _, _ => []

def partIssues (parts : List Part) : Outcome (List Issue) := do
  let found ← parts.mapM Part.issues
  return found.flatten

@[simp] theorem partIssues_nil : partIssues [] = .ok [] := rfl

theorem partIssues_cons (part : Part) (parts : List Part) :
    partIssues (part :: parts) = (do
      let first ← part.issues
      return first ++ (← partIssues parts)) := by
  simp only [partIssues, List.mapM_cons, bind_assoc, pure_bind, List.flatten_cons]

theorem partIssues_append (first second : List Part) :
    partIssues (first ++ second) = (do
      let found ← partIssues first
      return found ++ (← partIssues second)) := by
  simp only [partIssues, List.mapM_append, bind_assoc, pure_bind, List.flatten_append]

/-- An issue among those of some parts is one of a part, with the step to the part in front of its path. -/
theorem exists_part_of_mem_partIssues {parts : List Part} {found : List Issue} (h : partIssues parts = .ok found)
    {issue : Issue} (hissue : issue ∈ found) :
    ∃ part ∈ parts, ∃ step inner, part.step.text = .ok step ∧ part.schema.issues part.value = .ok inner ∧
      ∃ below ∈ inner, issue = below.under ("/" ++ step) := by
  obtain ⟨groups, hgroups, hfound⟩ := bind_eq_ok.1 h
  cases hfound
  obtain ⟨group, hgroup, hissue⟩ := List.mem_flatten.1 hissue
  obtain ⟨part, hpart, hissues⟩ := exists_of_mem_mapM hgroups hgroup
  simp only [Part.issues, bind_eq_ok, pure_eq_ok, Except.ok.injEq] at hissues
  obtain ⟨step, hstep, inner, hinner, rfl⟩ := hissues
  obtain ⟨below, hbelow, rfl⟩ := List.mem_map.1 hissue
  exact ⟨part, hpart, step, inner, hstep, hinner, below, hbelow, rfl⟩

theorem elementIssues_eq (items : Schema) (index : Nat) (elements : List Value) :
    elementIssues items index elements = partIssues (elementParts items elements index) := by
  induction elements generalizing index with
  | nil => rfl
  | cons v vs ih =>
    have hparts : elementParts items (v :: vs) index =
        ⟨.items, .index index, items, v⟩ :: elementParts items vs (index + 1) := rfl
    rw [hparts, partIssues_cons, ← ih, elementIssues]
    simp only [Part.issues, Step.text, pure_bind, bind_assoc]

theorem elementParts_append (items : Schema) (first second : List Value) (index : Nat) :
    elementParts items (first ++ second) index =
      elementParts items first index ++ elementParts items second (index + first.length) := by
  simp only [elementParts, List.zipIdx_append, List.map_append]

theorem placeIssues_eq (index : Nat) (items : List Schema) (elements : List Value) :
    placeIssues index items elements = partIssues (placeParts items elements index) := by
  induction elements generalizing index items with
  | nil =>
    have hparts : placeParts items [] index = [] := by simp [placeParts]
    rw [hparts, placeIssues, partIssues_nil]
    rfl
  | cons v vs ih =>
    cases items with
    | nil => rfl
    | cons item items =>
      have hparts : placeParts (item :: items) (v :: vs) index =
          ⟨.index index, .index index, item, v⟩ :: placeParts items vs (index + 1) := rfl
      rw [hparts, partIssues_cons, ← ih, placeIssues]
      simp only [Part.issues, Step.text, pure_bind, bind_assoc]

theorem entryIssues_eq (values : Schema) (entries : Entries) :
    entryIssues values entries = partIssues (entryParts values entries) := by
  induction entries with
  | nil => rfl
  | cons entry entries ih =>
    obtain ⟨key, v⟩ := entry
    have hparts : entryParts values ((key, v) :: entries) =
        ⟨.values, .key key, values, v⟩ :: entryParts values entries := rfl
    rw [hparts, partIssues_cons, ← ih, entryIssues]
    simp only [Part.issues, Step.text, pure_bind, bind_assoc]

theorem propertyIssues_eq (properties : List (Property Schema)) (entries : Entries) :
    propertyIssues properties entries = partIssues (propertyParts properties entries) := by
  induction entries with
  | nil => rfl
  | cons entry entries ih =>
    obtain ⟨key, v⟩ := entry
    have hdeclared : declared? properties key = (propertyFor? properties key).map (·.schema) := rfl
    rw [propertyIssues, hdeclared, propertyParts]
    cases hproperty : propertyFor? properties key with
    | none =>
      rw [List.filterMap_cons_none (by rw [hproperty]; rfl)]
      exact ih
    | some property =>
      rw [List.filterMap_cons_some (by rw [hproperty]; rfl), partIssues_cons]
      simp only [Option.map_some, Part.issues, Step.text, pure_bind, bind_assoc, ih, propertyParts]

/-- The issues of a value are what is wrong with itself, and then the issues of its parts. -/
theorem issues_eq (s : Schema) (v : Value) :
    s.issues v = (do
      let own ← s.ownCauses v
      let below ← partIssues (s.parts v)
      return own.map (·.issue) ++ below) := by
  rw [issues]
  refine congrArg (s.ownCauses v >>= ·) (funext fun own => ?_)
  dsimp only
  split
  case h_9 h1 h2 h3 h4 h5 h6 h7 h8 =>
    have hparts : s.parts v = [] := by
      cases s with
      | array items => cases v <;> first | rfl | exact (h1 _ _ rfl rfl).elim | exact (h2 _ _ rfl rfl).elim
      | tuple items => cases v <;> first | rfl | exact (h3 _ _ rfl rfl).elim | exact (h4 _ _ rfl rfl).elim
      | record values => cases v <;> first | rfl | exact (h5 _ _ rfl rfl).elim | exact (h6 _ _ rfl rfl).elim
      | object properties required =>
        cases v <;> first | rfl | exact (h7 _ _ _ rfl rfl).elim | exact (h8 _ _ _ rfl rfl).elim
      | _ => rfl
    rw [hparts, partIssues_nil]
    rfl
  all_goals simp only [parts, Value.elements?, Value.entries?, Option.map_some, Option.getD_some]
  case h_1 | h_2 => rw [elementIssues_eq]
  case h_3 | h_4 => split <;> simp only [placeIssues_eq, partIssues_nil, pure_eq_ok]
  case h_5 | h_6 => rw [entryIssues_eq]
  case h_7 | h_8 => split <;> simp only [propertyIssues_eq, partIssues_nil, pure_eq_ok]

theorem mem_elementParts {items : Schema} {elements : List Value} {part : Part} :
    part ∈ elementParts items elements 0 ↔
      ∃ i v, elements[i]? = some v ∧ part = ⟨.items, .index i, items, v⟩ := by
  simp only [elementParts, List.mem_map, Prod.exists, List.mk_mem_zipIdx_iff_getElem?, eq_comm (a := part)]
  exact exists_comm

theorem mem_placeParts {items : List Schema} {elements : List Value} {part : Part} :
    part ∈ placeParts items elements 0 ↔
      ∃ i item v, items[i]? = some item ∧ elements[i]? = some v ∧ part = ⟨.index i, .index i, item, v⟩ := by
  simp only [placeParts, List.mem_map, Prod.exists, List.mk_mem_zipIdx_iff_getElem?, List.getElem?_zip_eq_some]
  constructor
  · rintro ⟨item, v, i, ⟨hitem, hv⟩, rfl⟩
    exact ⟨i, item, v, hitem, hv, rfl⟩
  · rintro ⟨i, item, v, hitem, hv, rfl⟩
    exact ⟨item, v, i, ⟨hitem, hv⟩, rfl⟩

theorem mem_entryParts {values : Schema} {entries : Entries} {part : Part} :
    part ∈ entryParts values entries ↔ ∃ entry ∈ entries, part = ⟨.values, .key entry.1, values, entry.2⟩ := by
  simp only [entryParts, List.mem_map, eq_comm (a := part)]

theorem mem_propertyParts {properties : List (Property Schema)} {entries : Entries} {part : Part} :
    part ∈ propertyParts properties entries ↔
      ∃ entry ∈ entries, ∃ property, propertyFor? properties entry.1 = some property ∧
        part = ⟨.key property.key, .key entry.1, property.schema, entry.2⟩ := by
  simp only [propertyParts, List.mem_filterMap, Option.map_eq_some_iff, eq_comm (a := part)]

theorem mem_parts {s : Schema} {v : Value} {part : Part} (h : part ∈ s.parts v) :
    (∃ items elements i x, s = .array items ∧ v.elements? = some elements ∧ elements[i]? = some x ∧
      part = ⟨.items, .index i, items, x⟩) ∨
    (∃ items elements i item x, s = .tuple items ∧ v.elements? = some elements ∧
      elements.length = items.length ∧ items[i]? = some item ∧ elements[i]? = some x ∧
      part = ⟨.index i, .index i, item, x⟩) ∨
    (∃ values entries entry, s = .record values ∧ v.entries? = some entries ∧ entry ∈ entries ∧
      part = ⟨.values, .key entry.1, values, entry.2⟩) ∨
    ∃ properties required entries entry property, s = .object properties required ∧
      v.entries? = some entries ∧ (requiredNames? required).isSome ∧ entry ∈ entries ∧
      propertyFor? properties entry.1 = some property ∧
      part = ⟨.key property.key, .key entry.1, property.schema, entry.2⟩ := by
  cases s with
  | array items =>
    cases hv : v.elements? with
    | none => simp [parts, hv] at h
    | some elements =>
      simp only [parts, hv, Option.map_some, Option.getD_some, mem_elementParts] at h
      obtain ⟨i, x, hx, rfl⟩ := h
      exact .inl ⟨items, elements, i, x, rfl, rfl, hx, rfl⟩
  | tuple items =>
    cases hv : v.elements? with
    | none => simp [parts, hv] at h
    | some elements =>
      simp only [parts, hv, Option.map_some, Option.getD_some] at h
      split at h
      · next hlength =>
        obtain ⟨i, item, x, hitem, hx, rfl⟩ := mem_placeParts.1 h
        exact .inr (.inl ⟨items, elements, i, item, x, rfl, rfl, hlength, hitem, hx, rfl⟩)
      · cases h
  | record values =>
    cases hv : v.entries? with
    | none => simp [parts, hv] at h
    | some entries =>
      simp only [parts, hv, Option.map_some, Option.getD_some, mem_entryParts] at h
      obtain ⟨entry, hentry, rfl⟩ := h
      exact .inr (.inr (.inl ⟨values, entries, entry, rfl, rfl, hentry, rfl⟩))
  | object properties required =>
    cases hv : v.entries? with
    | none => simp [parts, hv] at h
    | some entries =>
      simp only [parts, hv, Option.map_some, Option.getD_some] at h
      split at h
      · next hrequired =>
        obtain ⟨entry, hentry, property, hproperty, rfl⟩ := mem_propertyParts.1 h
        exact .inr (.inr (.inr ⟨properties, required, entries, entry, property, rfl, rfl, hrequired, hentry,
          hproperty, rfl⟩))
      · cases h
  | _ => cases h

theorem mem_children_of_mem_parts {s : Schema} {v : Value} {part : Part} (h : part ∈ s.parts v) :
    (part.origin, part.schema) ∈ s.children := by
  obtain ⟨items, _, _, _, rfl, -, -, rfl⟩ | ⟨items, _, i, item, _, rfl, -, -, hitem, -, rfl⟩ |
    ⟨values, _, _, rfl, -, -, rfl⟩ | ⟨properties, _, _, _, property, rfl, -, -, -, hproperty, rfl⟩ := mem_parts h
  · exact List.mem_singleton_self _
  · exact List.mem_map.2 ⟨(item, i), List.mk_mem_zipIdx_iff_getElem?.2 hitem, rfl⟩
  · exact List.mem_singleton_self _
  · exact List.mem_map.2 ⟨property, List.mem_of_find?_eq_some hproperty, rfl⟩

theorem value_mem_parts {s : Schema} {v : Value} {part : Part} (h : part ∈ s.parts v) :
    part.value ∈ v.parts := by
  obtain ⟨_, elements, i, x, -, hv, hx, rfl⟩ | ⟨_, elements, i, _, x, -, hv, -, -, hx, rfl⟩ |
    ⟨_, entries, entry, -, hv, hentry, rfl⟩ | ⟨_, _, entries, entry, _, -, hv, -, hentry, -, rfl⟩ := mem_parts h
  · exact Value.mem_parts_of_elements hv (List.mem_of_getElem? hx)
  · exact Value.mem_parts_of_elements hv (List.mem_of_getElem? hx)
  · exact (Value.mem_parts_of_entries hv hentry).2
  · exact (Value.mem_parts_of_entries hv hentry).2

theorem step_text_succeeds {s : Schema} {v : Value} {part : Part} (hv : v.WithinDigitLimit)
    (hpart : part ∈ s.parts v) : ∃ step, part.step.text = .ok step := by
  obtain ⟨_, _, i, _, -, -, -, rfl⟩ | ⟨_, _, i, _, _, -, -, -, -, -, rfl⟩ |
    ⟨_, entries, entry, -, hentries, hentry, rfl⟩ | ⟨_, _, entries, entry, _, -, hentries, -, hentry, -, rfl⟩ :=
      mem_parts hpart
  · exact ⟨_, rfl⟩
  · exact ⟨_, rfl⟩
  · exact Value.plain_succeeds (hv.entry hentries hentry).1
  · exact Value.plain_succeeds (hv.entry hentries hentry).1

theorem induction_on_parts {P : Schema → Value → Prop}
    (step : ∀ s v, (∀ part ∈ s.parts v, P part.schema part.value) → P s v) (s : Schema) (v : Value) : P s v := by
  induction v using Value.induction_on_parts generalizing s with
  | step v ih => exact step s v fun part hpart => ih _ (value_mem_parts hpart) part.schema

/-- Validation of a value under a schema comes, by some steps in the tree of the schema and some in the
value, to a value that is checked under a schema. -/
inductive Reaches : Schema → Value → List Step → List Step → Schema → Value → Prop
  | here (s : Schema) (v : Value) : Reaches s v [] [] s v
  | part {s : Schema} {v : Value} {part : Part} {location steps : List Step} {t : Schema} {w : Value}
      (hpart : part ∈ s.parts v) (rest : Reaches part.schema part.value location steps t w) :
      Reaches s v (part.origin :: location) (part.step :: steps) t w

theorem Reaches.everywhere {P : Schema → Prop} {s t : Schema} {v w : Value} {location steps : List Step}
    (h : s.Reaches v location steps t w) (hs : s.Everywhere P) : t.Everywhere P := by
  induction h with
  | here => exact hs
  | part hpart _ ih => exact ih (hs.child (mem_children_of_mem_parts hpart))

theorem Reaches.everywhere_value {P : Value → Prop} {s t : Schema} {v w : Value} {location steps : List Step}
    (h : s.Reaches v location steps t w) (hv : v.Everywhere P) : w.Everywhere P := by
  induction h with
  | here => exact hv
  | part hpart _ ih => exact ih (hv.part (value_mem_parts hpart))

/-- Every issue has its cause in something that is wrong with a value itself which validation comes to. -/
theorem exists_cause_of_mem_issues {s : Schema} {v : Value} {found : List Issue} (h : s.issues v = .ok found)
    {issue : Issue} (hissue : issue ∈ found) :
    ∃ location steps t w causes cause, s.Reaches v location steps t w ∧ t.ownCauses w = .ok causes ∧ cause ∈ causes ∧
      issue.kind = cause.kind ∧ issue.message = cause.message := by
  induction s, v using induction_on_parts generalizing found issue with
  | step s v ih =>
    simp only [issues_eq, bind_eq_ok, pure_eq_ok, Except.ok.injEq] at h
    obtain ⟨own, hown, below, hbelow, rfl⟩ := h
    rcases List.mem_append.1 hissue with hissue | hissue
    · obtain ⟨cause, hcause, rfl⟩ := List.mem_map.1 hissue
      exact ⟨[], [], s, v, own, cause, .here s v, hown, hcause, rfl, rfl⟩
    · obtain ⟨part, hpart, -, inner, -, hinner, inmost, hinmost, rfl⟩ := exists_part_of_mem_partIssues hbelow hissue
      obtain ⟨location, steps, t, w, causes, cause, hreaches, hrest⟩ := ih part hpart hinner hinmost
      exact ⟨_, _, t, w, causes, cause, .part hpart hreaches, hrest⟩

/-- What validation comes to is checked under a schema that stands, as a value, inside the schema it started with. -/
theorem Reaches.exists_hasNode {s t : Schema} {v x : Value} {origin steps : List Step}
    (h : s.Reaches v origin steps t x) {schema : Value} (hschema : ofValue schema = s) :
    ∃ node, schema.HasNode origin node ∧ ofValue node = t := by
  induction h generalizing schema with
  | here => exact ⟨schema, .root schema, hschema⟩
  | part hpart _ ih =>
    subst hschema
    obtain ⟨node, child, hunwrap, hstep, hchild⟩ := exists_holds_of_mem_children (mem_children_of_mem_parts hpart)
    obtain ⟨found, hfound, ht⟩ := ih hchild
    exact ⟨found, .child hunwrap hstep hfound, ht⟩

end Schema

theorem validate_root (schema v : Value) : validate schema v "" = (Schema.ofValue schema).issues v := by
  rw [validate]
  cases (Schema.ofValue schema).issues v <;> simp [Issue.under]

end DataShape
