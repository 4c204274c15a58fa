import DataShape.Proofs.Validation.Parts
import DataShape.Proofs.Value.Location
import Mathlib.Data.List.Flatten

/-! Where issues point to, and in which order they are listed. Each is an issue of the value that its path leads to,
under the schema that is checked there, and they are listed location by location in the order of the document. -/

namespace DataShape

/-- Issues listed location by location, at each location all that have its path. -/
inductive Listed : List (List Step) → List Issue → Prop
  | nil : Listed [] []
  | cons {location : List Step} {locations : List (List Step)} {here rest : List Issue}
      (hhere : ∀ issue ∈ here, Step.path location = .ok issue.path) (hrest : Listed locations rest) :
      Listed (location :: locations) (here ++ rest)

namespace Listed

variable {locations locations' : List (List Step)} {found found' : List Issue}

theorem of_sublist (h : Listed locations found) (hsub : locations.Sublist locations') : Listed locations' found := by
  induction hsub generalizing found with
  | slnil => exact h
  -- Nothing is found at a location that is passed over.
  | cons location _ ih => exact @Listed.cons location _ [] found (by simp) (ih h)
  | cons_cons location _ ih =>
    cases h with
    | cons hhere hrest => exact .cons hhere (ih hrest)

theorem append (h : Listed locations found) (h' : Listed locations' found') :
    Listed (locations ++ locations') (found ++ found') := by
  induction h with
  | nil => exact h'
  | cons hhere _ ih =>
    rw [List.cons_append, List.append_assoc]
    exact .cons hhere ih

theorem atStep (h : Listed locations found) {step : Step} {text : String} (htext : step.text = .ok text) :
    Listed (locations.map (step :: ·)) (Schema.atStep text found) := by
  induction h with
  | nil => exact .nil
  | @cons location _ here rest hhere _ ih =>
    rw [List.map_cons, Schema.atStep, List.map_append]
    refine .cons (fun issue hissue => ?_) ih
    obtain ⟨inner, hinner, rfl⟩ := List.mem_map.1 hissue
    exact Step.path_cons_eq_ok.2 ⟨text, inner.path, htext, hhere inner hinner, rfl⟩

theorem exists_location (h : Listed locations found) {issue : Issue} (hissue : issue ∈ found) :
    ∃ location ∈ locations, Step.path location = .ok issue.path := by
  induction h with
  | nil => cases hissue
  | @cons location _ _ _ hhere _ ih =>
    rcases List.mem_append.1 hissue with hissue | hissue
    · exact ⟨location, List.mem_cons_self, hhere issue hissue⟩
    · obtain ⟨other, hother, hpath⟩ := ih hissue
      exact ⟨other, List.mem_cons_of_mem _ hother, hpath⟩

/-- If no two locations have the same path, the issues of a location are those with its path. -/
theorem eq_flatMap_filter (h : Listed locations found) (hpaths : (locations.map Step.path).Nodup) :
    found = locations.flatMap fun location => found.filter fun issue => Step.path location = .ok issue.path := by
  induction h with
  | nil => rfl
  | @cons location locations here rest hhere hrest ih =>
    rw [List.map_cons, List.nodup_cons] at hpaths
    -- An issue of another location has another path, so each filter takes from one side only.
    have hother {issue : Issue} (hissue : issue ∈ rest) : Step.path location ≠ .ok issue.path := by
      obtain ⟨other, hother, hpath⟩ := hrest.exists_location hissue
      exact fun heq => hpaths.1 (List.mem_map.2 ⟨other, hother, hpath.trans heq.symm⟩)
    have hfirst : (here ++ rest).filter (fun issue => Step.path location = .ok issue.path) = here := by
      rw [List.filter_append, List.filter_eq_self.2 (by simpa using hhere),
        List.filter_eq_nil_iff.2 fun issue hissue => by simpa using hother hissue, List.append_nil]
    have hlast : ∀ other ∈ locations, (here ++ rest).filter (fun issue => Step.path other = .ok issue.path) =
        rest.filter fun issue => Step.path other = .ok issue.path := by
      intro other hother
      rw [List.filter_append, List.filter_eq_nil_iff.2, List.nil_append]
      intro issue hissue hpath
      exact hpaths.1 (List.mem_map.2 ⟨other, hother, (of_decide_eq_true hpath).trans (hhere issue hissue).symm⟩)
    rw [List.flatMap_cons, hfirst, List.flatMap_congr hlast]
    exact congrArg (here ++ ·) (ih hpaths.2)

end Listed

namespace Schema

theorem placeParts_sublist (items : List Schema) (elements : List Value) (index : Nat) :
    ((placeParts items elements index).map fun part => (part.step, part.value)).Sublist
      ((elements.zipIdx index).map fun (x, i) => (Step.index i, x)) := by
  induction items generalizing elements index with
  | nil => exact List.nil_sublist _
  | cons item items ih =>
    cases elements with
    | nil => exact List.nil_sublist _
    | cons v vs => exact (ih vs (index + 1)).cons_cons (Step.index index, v)

theorem propertyParts_sublist (properties : List (Property Schema)) (entries : Entries) :
    ((propertyParts properties entries).map fun part => (part.step, part.value)).Sublist
      (entries.map fun entry => (Step.key entry.1, entry.2)) := by
  induction entries with
  | nil => exact List.nil_sublist _
  | cons entry entries ih =>
    rw [propertyParts]
    cases hproperty : propertyFor? properties entry.1 with
    | none =>
      rw [List.filterMap_cons_none (by rw [hproperty]; rfl)]
      exact ih.cons _
    | some property =>
      rw [List.filterMap_cons_some (by rw [hproperty]; rfl)]
      exact ih.cons_cons (Step.key entry.1, entry.2)

/-- The parts that are checked are children of the value, in their order. -/
theorem parts_sublist (s : Schema) (v : Value) :
    ((s.parts v).map fun part => (part.step, part.value)).Sublist v.children := by
  cases s with
  | array items =>
    cases hv : v.elements? with
    | none => simp [parts, hv]
    | some elements =>
      rw [Value.children_of_elements hv]
      simp only [parts, hv, Option.map_some, Option.getD_some, elementParts, List.map_map]
      exact List.Sublist.refl _
  | tuple items =>
    cases hv : v.elements? with
    | none => simp [parts, hv]
    | some elements =>
      rw [Value.children_of_elements hv]
      simp only [parts, hv, Option.map_some, Option.getD_some]
      split
      · exact placeParts_sublist items elements 0
      · exact List.nil_sublist _
  | record values =>
    cases hv : v.entries? with
    | none => simp [parts, hv]
    | some entries =>
      rw [Value.children_of_entries hv]
      simp only [parts, hv, Option.map_some, Option.getD_some, entryParts, List.map_map]
      exact List.Sublist.refl _
  | object properties required =>
    cases hv : v.entries? with
    | none => simp [parts, hv]
    | some entries =>
      rw [Value.children_of_entries hv]
      simp only [parts, hv, Option.map_some, Option.getD_some]
      split
      · exact propertyParts_sublist properties entries
      · exact List.nil_sublist _
  | _ => exact List.nil_sublist _

theorem listed_partIssues {parts : List Part} {found : List Issue}
    (hparts : ∀ part ∈ parts, ∀ inner, part.schema.issues part.value = .ok inner → Listed part.value.locations inner)
    (h : partIssues parts = .ok found) :
    Listed (parts.flatMap fun part => part.value.locations.map (part.step :: ·)) found := by
  induction parts generalizing found with
  | nil =>
    cases h
    exact .nil
  | cons part parts ih =>
    rw [List.forall_mem_cons] at hparts
    simp only [partIssues_cons, Part.issues, bind_eq_ok, pure_eq_ok, Except.ok.injEq] at h
    obtain ⟨_, ⟨text, htext, inner, hinner, rfl⟩, rest, hrest, rfl⟩ := h
    rw [List.flatMap_cons]
    exact ((hparts.1 inner hinner).atStep htext).append (ih hparts.2 hrest)

/-- The issues of a value are listed location by location, in the order of the document. -/
theorem listed_issues {s : Schema} {v : Value} {found : List Issue} (h : s.issues v = .ok found) :
    Listed v.locations found := by
  induction s, v using induction_on_parts generalizing found with
  | step s v ih =>
    simp only [issues_eq, bind_eq_ok, pure_eq_ok, Except.ok.injEq] at h
    obtain ⟨own, -, below, hbelow, rfl⟩ := h
    rw [Value.locations_eq]
    refine .cons (fun issue hissue => ?_) ?_
    · obtain ⟨cause, -, rfl⟩ := List.mem_map.1 hissue
      rfl
    · have hlisted := listed_partIssues (fun part hpart inner hinner => ih part hpart hinner) hbelow
      refine hlisted.of_sublist ?_
      have hsub := (parts_sublist s v).flatMap fun c : Step × Value => c.2.locations.map (c.1 :: ·)
      rwa [List.flatMap_map] at hsub

/-- Each issue is one of what validation comes to at its path, and is the same issue there but for its path. -/
theorem exists_reaches_of_mem_issues {s : Schema} {v : Value} {found : List Issue} (h : s.issues v = .ok found)
    {issue : Issue} (hissue : issue ∈ found) :
    ∃ origin steps t u inner, s.Reaches v origin steps t u ∧ Step.path steps = .ok issue.path ∧
      t.issues u = .ok inner ∧ { issue with path := "" } ∈ inner := by
  induction s, v using induction_on_parts generalizing found issue with
  | step s v ih =>
    have hissues := h
    simp only [issues_eq, bind_eq_ok, pure_eq_ok, Except.ok.injEq] at h
    obtain ⟨own, -, below, hbelow, rfl⟩ := h
    rcases List.mem_append.1 hissue with hown | hissue
    · refine ⟨[], [], s, v, _, .here s v, ?_, hissues, ?_⟩
      · obtain ⟨cause, -, rfl⟩ := List.mem_map.1 hown
        rfl
      · obtain ⟨cause, -, rfl⟩ := List.mem_map.1 hown
        exact List.mem_append_left _ hown
    · obtain ⟨part, hpart, text, inside, htext, hinside, inmost, hinmost, rfl⟩ :=
        exists_part_of_mem_partIssues hbelow hissue
      obtain ⟨origin, steps, t, u, inner, hreaches, hpath, hinner, hmem⟩ := ih part hpart hinside hinmost
      exact ⟨_, _, t, u, inner, .part hpart hreaches, Step.path_cons_eq_ok.2 ⟨text, _, htext, hpath, rfl⟩, hinner, hmem⟩

/-- The path of the steps by which validation comes to a value leads to it. -/
theorem Reaches.atPath?_eq {s t : Schema} {v u : Value} {origin steps : List Step} (h : s.Reaches v origin steps t u)
    (hkeys : v.Everywhere Value.HasPlainKeys) {place : String} (hplace : Step.path steps = .ok place) :
    v.atPath? place = some u := by
  suffices hfollow : ∃ texts, pieces '/' place.toList = [] :: texts ∧ v.follow? texts = some u by
    obtain ⟨texts, htexts, hu⟩ := hfollow
    rw [Value.atPath?, htexts]
    exact hu
  induction h generalizing place with
  | here s v =>
    cases hplace
    exact ⟨[], rfl, rfl⟩
  | @part s v part _ steps t u hpart _ ih =>
    obtain ⟨text, rest, htext, hrest, rfl⟩ := Step.path_cons_eq_ok.1 hplace
    have hchild : (part.step, part.value) ∈ v.children :=
      (parts_sublist s v).subset (List.mem_map_of_mem hpart)
    obtain ⟨text', htext', hslash, hfound⟩ := Value.exists_text_of_mem_children hkeys.here hchild
    obtain rfl : text' = text := Except.ok.inj (htext'.symm.trans htext)
    obtain ⟨texts, htexts, hcons⟩ := Step.pieces_path_cons hslash hrest
    obtain ⟨_, htexts', hu⟩ := ih (hkeys.child hchild) hrest
    obtain rfl := (List.cons.inj (htexts.symm.trans htexts')).2
    refine ⟨_, hcons, ?_⟩
    rw [Value.follow?, String.ofList_toList, hfound]
    exact hu

end Schema

/-- In a document whose keys are texts without a slash, the path of each issue leads to the value that the issue is
about, and there is the same issue under the schema that is checked there; no two locations have the same path; and
the issues are listed in the order of the document, those of one location together, before those of what is below it. -/
theorem issues_in_document_order {schema v : Value} {found : List Issue} (hkeys : v.Everywhere Value.HasPlainKeys)
    (h : validate schema v "" = .ok found) :
    (∀ issue ∈ found, ∃ (origin steps : List Step) (node u : Value) (inner : List Issue),
      schema.HasNode origin node ∧ (Schema.ofValue schema).Reaches v origin steps (Schema.ofValue node) u ∧
      Step.path steps = .ok issue.path ∧ v.atPath? issue.path = some u ∧
      validate node u "" = .ok inner ∧ { issue with path := "" } ∈ inner) ∧
    (∀ location ∈ v.locations, ∃ place, Step.path location = .ok place) ∧
    (v.locations.map Step.path).Nodup ∧
    found = v.locations.flatMap fun location => found.filter fun issue => Step.path location = .ok issue.path := by
  rw [validate_root] at h
  refine ⟨fun issue hissue => ?_, fun location => Value.exists_path_of_mem_locations hkeys, Value.nodup_paths hkeys,
    (Schema.listed_issues h).eq_flatMap_filter (Value.nodup_paths hkeys)⟩
  obtain ⟨origin, steps, t, u, inner, hreaches, hpath, hinner, hmem⟩ := Schema.exists_reaches_of_mem_issues h hissue
  obtain ⟨node, hnode, rfl⟩ := hreaches.exists_hasNode rfl
  exact ⟨origin, steps, node, u, inner, hnode, hreaches, hpath, hreaches.atPath?_eq hkeys hpath,
    by rw [validate_root, hinner], hmem⟩

/-- A record of lists of texts. -/
def recordOfLists : Value := .ofFields [("type", .str "object"),
  ("additionalProperties", .ofFields [("type", .str "array"), ("items", .ofFields [("type", .str "string")])])]

/-- Something else is in the list under the empty key, and what comes after it is no list. -/
def listUnderEmptyKey : Value := .ofFields [("", .list [.str "Ada", .null]), ("names", .bool true)]

theorem issues_under_empty_key_in_order :
    listUnderEmptyKey.Everywhere Value.HasPlainKeys ∧
    validate recordOfLists listUnderEmptyKey "" =
      .ok [⟨.invalidType, "Invalid type, expected string, got None", "//1"⟩,
        ⟨.invalidType, "Invalid type, expected array, got bool True", "/names"⟩] ∧
    ∃ (origin steps : List Step) (node u : Value) (inner : List Issue),
      recordOfLists.HasNode origin node ∧
      (Schema.ofValue recordOfLists).Reaches listUnderEmptyKey origin steps (Schema.ofValue node) u ∧
      Step.path steps = .ok "//1" ∧ listUnderEmptyKey.atPath? "//1" = some u ∧ validate node u "" = .ok inner ∧
      ⟨.invalidType, "Invalid type, expected string, got None", ""⟩ ∈ inner := by
  have hplain {v : Value} (hv : v.entries? = none) : v.HasPlainKeys := Value.hasPlainKeys_of_not_mapping hv
  have hkeys : listUnderEmptyKey.Everywhere Value.HasPlainKeys := by
    simp only [listUnderEmptyKey, Value.ofFields, List.map_cons, List.map_nil, Value.everywhere_dict,
      Value.everywhere_list, Value.everywhere_str, Value.everywhere_null, Value.everywhere_bool, List.forall_mem_cons,
      List.not_mem_nil, false_implies, implies_true, and_true]
    refine ⟨⟨Value.hasDistinctKeys_dict.2 (by decide), ?_⟩, ⟨hplain rfl, hplain rfl, hplain rfl, hplain rfl⟩,
      hplain rfl, hplain rfl⟩
    rintro _ ⟨rfl⟩
    simp
  have hissues : validate recordOfLists listUnderEmptyKey "" =
      .ok [⟨.invalidType, "Invalid type, expected string, got None", "//1"⟩,
        ⟨.invalidType, "Invalid type, expected array, got bool True", "/names"⟩] := rfl
  exact ⟨hkeys, hissues, (issues_in_document_order hkeys hissues).1 _ List.mem_cons_self⟩

end DataShape
