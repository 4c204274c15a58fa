import DataShape.Proofs.Schema.Nodes
import DataShape.Proofs.Schema.Role

/-! A schema with all its wrappers taken off, at every depth. It is read as the same schema but for the marks of
properties, and so passes the check as the other does. -/

namespace DataShape
namespace Value

/-- A mapping in a role, once what stands under its keys is bare: of a wrapper, only what it holds is left. -/
def withoutWrapper (role : Role) (v rebuilt : Value) : Value :=
  match role with
  | .schema | .items => if v.isModified then (rebuilt.field? "item").getD v else rebuilt
  | .properties => rebuilt
  | .data => v

mutual

/-- A value in a role, with the wrappers taken off the schemas in it. -/
def bareIn (role : Role) : Value → Value
  | .list items => .list (if role = .items then bareElements items else items)
  | .tuple items => .tuple (if role = .items then bareElements items else items)
  | .dict entries => withoutWrapper role (.dict entries) (.dict (bareEntries (role.below (.dict entries)) entries))
  | .view entries => withoutWrapper role (.view entries) (.view (bareEntries (role.below (.view entries)) entries))
  | v => v

def bareElements : List Value → List Value
  | [] => []
  | v :: vs => bareIn .schema v :: bareElements vs

/-- Entries with the wrappers taken off what stands under each key, by its role. -/
def bareEntries (roles : Value → Role) : List (Value × Value) → List (Value × Value)
  | [] => []
  | (key, v) :: entries => (key, bareIn (roles key) v) :: bareEntries roles entries

end

/-- A schema with its wrappers taken off, at every depth. -/
def bare (v : Value) : Value := bareIn .schema v

theorem bareElements_eq_map (items : List Value) : bareElements items = items.map bare := by
  induction items with
  | nil => rfl
  | cons v vs ih => rw [bareElements, ih]; rfl

theorem bareEntries_eq_map (roles : Value → Role) (entries : Entries) :
    bareEntries roles entries = entries.map fun entry => (entry.1, bareIn (roles entry.1) entry.2) := by
  induction entries with
  | nil => rfl
  | cons entry entries ih => rw [bareEntries, ih]; rfl

theorem bareIn_data (v : Value) : bareIn .data v = v := by
  cases v <;> rfl

theorem lookup?_bareEntries (roles : Value → Role) (entries : Entries) (name : String) :
    Entries.lookup? (bareEntries roles entries) (.str name) =
      (entries.lookup? (.str name)).map (bareIn (roles (.str name))) := by
  induction entries with
  | nil => rfl
  | cons entry entries ih =>
    rw [bareEntries, Entries.lookup?_cons, Entries.lookup?_cons, ih]
    cases hkey : entry.1.sameKey (.str name) with
    | true => simp [sameKey_str_iff.1 hkey]
    | false => simp

theorem field?_bare {v : Value} (h : v.isModified = false) (name : String) :
    v.bare.field? name = (v.field? name).map (bareIn (Role.within v.tag? (.str name))) := by
  cases v with
  | dict entries | view entries =>
    simp only [bare, bareIn, withoutWrapper, h, Bool.false_eq_true, if_false, field?, entries?, Option.bind_some]
    exact lookup?_bareEntries _ entries name
  | _ => rfl

theorem field?_bare_of_data {v : Value} (h : v.isModified = false) {name : String}
    (hname : Role.ofKey (.str name) = .data) : v.bare.field? name = v.field? name := by
  rw [field?_bare h, Role.within_eq_data hname]
  cases v.field? name with
  | none => rfl
  | some x => rw [Option.map_some, bareIn_data]

theorem fieldOrNull_bare_of_data {v : Value} (h : v.isModified = false) {name : String}
    (hname : Role.ofKey (.str name) = .data) : v.bare.fieldOrNull name = v.fieldOrNull name := by
  rw [fieldOrNull, fieldOrNull, field?_bare_of_data h hname]

theorem tag?_bare {v : Value} (h : v.isModified = false) : v.bare.tag? = v.tag? := by
  rw [tag?, tag?, field?_bare_of_data h rfl]

theorem bare_of_isModified {v item : Value} (h : v.isModified = true) (hitem : v.field? "item" = some item) :
    v.bare = item.bare := by
  have hrole : Role.within v.tag? (.str "item") = .schema := by
    rw [show v.tag? = some "modified" by simpa [isModified] using h]
    rfl
  have hrebuilt (entries : Entries) (hentries : entries.lookup? (.str "item") = some item) :
      Entries.lookup? (bareEntries (Role.below .schema v) entries) (.str "item") = some item.bare := by
    rw [lookup?_bareEntries, hentries, Option.map_some, Role.below, hrole]
    rfl
  cases v with
  | dict entries | view entries =>
    rw [bare, bareIn, withoutWrapper, if_pos h]
    exact congrArg (Option.getD · _) (hrebuilt entries hitem)
  | _ => cases hitem

theorem bare_of_unwrap {v node : Value} (h : v.unwrap = .ok node) : v.bare = node.bare := by
  unfold unwrap at h
  split at h
  · next hmodified =>
    split at h
    · next item hitem =>
      cases h
      exact bare_of_isModified hmodified hitem
    · cases h
  · cases h
    rfl

/-- What stands for the items of an array or tuple, one by one if it is a list. -/
theorem elements?_bareIn_items (v : Value) :
    v.elements? = none ∧ bareIn .items v = v.bare ∨
      ∃ items, v.elements? = some items ∧ (bareIn .items v).elements? = some (items.map bare) := by
  cases v with
  | list items | tuple items => exact .inr ⟨items, rfl, congrArg some (bareElements_eq_map items)⟩
  | _ => exact .inl ⟨rfl, rfl⟩

theorem entries?_bareIn_properties (v : Value) :
    (bareIn .properties v).entries? = v.entries?.map (List.map fun entry => (entry.1, entry.2.bare)) := by
  cases v with
  | dict entries | view entries => exact congrArg some (bareEntries_eq_map _ entries)
  | _ => rfl

end Value

namespace Schema

mutual

/-- A schema without the marks of its properties, at every depth. -/
def unmarked : Schema → Schema
  | .array items => .array items.unmarked
  | .tuple items => .tuple (unmarkedItems items)
  | .record values => .record values.unmarked
  | .object properties required => .object (unmarkedProperties properties) required
  | s => s

def unmarkedItems : List Schema → List Schema
  | [] => []
  | s :: ss => s.unmarked :: unmarkedItems ss

def unmarkedProperties : List (Property Schema) → List (Property Schema)
  | [] => []
  | ⟨key, _, schema⟩ :: properties => ⟨key, false, schema.unmarked⟩ :: unmarkedProperties properties

end

theorem unmarkedItems_eq_map (items : List Schema) : unmarkedItems items = items.map unmarked := by
  induction items with
  | nil => rfl
  | cons s ss ih => rw [unmarkedItems, ih]; rfl

theorem unmarkedProperties_eq_map (properties : List (Property Schema)) :
    unmarkedProperties properties =
      properties.map fun property => ⟨property.key, false, property.schema.unmarked⟩ := by
  induction properties with
  | nil => rfl
  | cons property properties ih => rw [unmarkedProperties, ih]; rfl

theorem isValid_unmarked (s : Schema) : s.unmarked.isValid = s.isValid := by
  cases s <;> rfl

theorem children_unmarked (s : Schema) :
    s.unmarked.children = s.children.map fun child => (child.1, child.2.unmarked) := by
  cases s with
  | tuple items =>
    simp [unmarked, children, unmarkedItems_eq_map, List.zipIdx_map, Function.comp_def]
  | object properties required => simp [unmarked, children, unmarkedProperties_eq_map, Function.comp_def]
  | _ => rfl

theorem isDefective_unmarked (s : Schema) : s.unmarked.isDefective = s.isDefective := by
  cases s with
  | object properties required =>
    simp [unmarked, isDefective, declares, unmarkedProperties_eq_map, Function.comp_def]
  | _ => rfl

theorem checkNode_unmarked (path : String) (s : Schema) : s.unmarked.checkNode path = s.checkNode path := by
  have hdefective := isDefective_unmarked s
  cases s with
  | object properties required =>
    rw [unmarked] at hdefective
    simp only [unmarked, checkNode, hdefective]
  | _ => rfl

theorem check_unmarked (path : String) (s : Schema) : s.unmarked.check path = s.check path := by
  induction s using induction_on_children generalizing path with
  | step s ih =>
    have hchildren : ∀ child ∈ s.children, checkChild path (child.1, child.2.unmarked) = checkChild path child := by
      intro child hchild
      simp only [checkChild, ih child hchild]
    rw [check_eq, check_eq, checkNode_unmarked, children_unmarked, List.forM_map, forM_congr hchildren]

theorem elements?_eq_none_of_isSchema {v : Value} (h : v.isSchema = true) : v.elements? = none := by
  cases v <;> first | rfl | cases h

theorem isNull_of_isSchema {v : Value} (h : v.isSchema = true) : v.isNull = false := by
  cases v <;> first | rfl | cases h

/-- What is bare is read as the same schema without marks, and is no wrapper. -/
structure ReadsBare (v : Value) : Prop where
  isSchema : v.isSchema = true
  ofValue_eq : ofValue v.bare = (ofValue v).unmarked
  isModified_eq : v.bare.isModified = false

theorem ReadsBare.isSchema_bare {v : Value} (h : ReadsBare v) : v.bare.isSchema = true := by
  rw [Value.isSchema, h.ofValue_eq, isValid_unmarked]
  exact h.isSchema

/-- A schema without a wrapper, once the wrappers inside are taken off: how it is read, and what it holds. -/
structure BareNode (node : Value) (s : Schema) : Prop where
  ofNode?_eq : ofNode? node.bare = some s.unmarked
  heldSchemas_eq : node.bare.heldSchemas = node.heldSchemas.map fun inner => (inner.1, inner.2.bare)

theorem bareNode_array {node : Value} {s : Schema} (htag : node.tag? = some "array") (hof : ofNode? node = some s)
    (hnode : node.isModified = false)
    (h : ∀ child ∈ s.children, ∀ x : Value, ofValue x = child.2 → ReadsBare x) : BareNode node s := by
  simp only [ofNode?, htag] at hof
  obtain ⟨items, hitems, rfl⟩ := Option.map_eq_some_iff.1 hof
  have hbareTag := (Value.tag?_bare hnode).trans htag
  have hbare : node.bare.field? "items" = some (Value.bareIn .items items) := by
    rw [Value.field?_bare hnode, htag, hitems]
    rfl
  obtain ⟨hnone, heq⟩ | ⟨elements, helements, heq⟩ := Value.elements?_bareIn_items items
  · simp only [hnone] at h ⊢
    have hreads := h _ (List.mem_singleton_self _) items rfl
    have hbareNone := elements?_eq_none_of_isSchema hreads.isSchema_bare
    rw [heq] at hbare
    refine ⟨?_, ?_⟩
    · simp only [ofNode?, hbareTag, hbare, Option.map_some, hbareNone, hreads.ofValue_eq, unmarked]
    · rw [Value.heldSchemas_of_array hbareTag hbare hbareNone, Value.heldSchemas_of_array htag hitems hnone]
      rfl
  · simp only [helements] at h ⊢
    refine ⟨?_, ?_⟩
    · simp only [ofNode?, hbareTag, hbare, Option.map_some, heq, unmarked, unmarkedItems_eq_map, List.map_map]
      refine congrArg (some <| tuple ·) (List.map_congr_left fun x hx => ?_)
      obtain ⟨i, hi⟩ := List.mem_iff_getElem?.1 hx
      refine (h (.index i, ofValue x) (List.mem_map.2 ⟨(ofValue x, i), ?_, rfl⟩) x rfl).ofValue_eq
      rw [List.mk_mem_zipIdx_iff_getElem?, List.getElem?_map, hi, Option.map_some]
    · rw [Value.heldSchemas_of_tuple hbareTag hbare heq, Value.heldSchemas_of_tuple htag hitems helements]
      simp [List.zipIdx_map, Function.comp_def]

theorem bareNode_object {node : Value} {s : Schema} (htag : node.tag? = some "object") (hof : ofNode? node = some s)
    (hnode : node.isModified = false)
    (h : ∀ child ∈ s.children, ∀ x : Value, ofValue x = child.2 → ReadsBare x) : BareNode node s := by
  have hbareTag := (Value.tag?_bare hnode).trans htag
  have hvalues : node.bare.field? "additionalProperties" =
      (node.field? "additionalProperties").map Value.bare := by
    rw [Value.field?_bare hnode, htag]
    rfl
  have hdeclared : node.bare.field? "properties" =
      (node.field? "properties").map (Value.bareIn .properties) := by
    rw [Value.field?_bare hnode, htag]
    rfl
  simp only [ofNode?, htag] at hof
  split at hof
  · next values hfilter =>
    cases hof
    obtain ⟨hfield, -⟩ := Option.filter_eq_some_iff.1 hfilter
    have hreads := h _ (List.mem_singleton_self _) values rfl
    have hbareFilter : (node.bare.field? "additionalProperties").filter (fun values => !values.isNull) =
        some values.bare := by
      simp only [hvalues, hfield, Option.map_some, Option.filter, isNull_of_isSchema hreads.isSchema_bare,
        Bool.not_false, if_true]
    refine ⟨?_, ?_⟩
    · simp only [ofNode?, hbareTag, hbareFilter, hreads.ofValue_eq, unmarked]
    · rw [Value.heldSchemas_of_record hbareTag hbareFilter, Value.heldSchemas_of_record htag hfilter]
      rfl
  · next hfilter =>
    obtain ⟨entries, hentries, rfl⟩ := Option.map_eq_some_iff.1 hof
    have hbareFilter : (node.bare.field? "additionalProperties").filter (fun values => !values.isNull) = none := by
      rw [hvalues]
      cases hfield : node.field? "additionalProperties" with
      | none => rfl
      | some values =>
        have hnull : values.isNull = true := by simpa [hfield, Option.filter] using hfilter
        cases values <;> first | rfl | cases hnull
    have hbareEntries : (node.bare.field? "properties").bind Value.entries? =
        some (entries.map fun entry => (entry.1, entry.2.bare)) := by
      obtain ⟨declared, hfield, hof⟩ := Option.bind_eq_some_iff.1 hentries
      rw [hdeclared, hfield, Option.map_some, Option.bind_some, Value.entries?_bareIn_properties, hof, Option.map_some]
    have hrequired : node.bare.fieldOrNull "required" = node.fieldOrNull "required" :=
      Value.fieldOrNull_bare_of_data hnode rfl
    refine ⟨?_, ?_⟩
    · simp only [ofNode?, hbareTag, hbareFilter, hbareEntries, Option.map_some, unmarked, unmarkedProperties_eq_map,
        List.map_map, hrequired]
      refine congrArg (fun properties => some (object properties _)) (List.map_congr_left fun entry hentry => ?_)
      have hreads := h (.key entry.1, ofValue entry.2)
        (List.mem_map.2 ⟨_, List.mem_map_of_mem hentry, rfl⟩) entry.2 rfl
      simp only [Function.comp, Property.ofEntry, hreads.ofValue_eq, Value.isReadonly, hreads.isModified_eq,
        Bool.false_and]
    · rw [Value.heldSchemas_of_object hbareTag hbareFilter hbareEntries,
        Value.heldSchemas_of_object htag hfilter hentries]
      simp [Function.comp_def]

theorem bareNode_of_ofNode? {node : Value} {s : Schema} (hof : ofNode? node = some s) (hnode : node.isModified = false)
    (h : ∀ child ∈ s.children, ∀ x : Value, ofValue x = child.2 → ReadsBare x) : BareNode node s := by
  have hbareTag := Value.tag?_bare hnode
  have hkept (name : String) (hname : Role.ofKey (.str name) = .data) :=
    Value.fieldOrNull_bare_of_data hnode hname
  have hnothing (harray : node.tag? ≠ some "array") (hobject : node.tag? ≠ some "object") :
      node.bare.heldSchemas = node.heldSchemas.map fun inner => (inner.1, inner.2.bare) := by
    rw [Value.heldSchemas_eq_nil harray hobject, Value.heldSchemas_eq_nil (hbareTag ▸ harray) (hbareTag ▸ hobject)]
    rfl
  have hof' := hof
  unfold ofNode? at hof
  split at hof
  case h_1 htag | h_2 htag | h_3 htag | h_6 htag =>
    cases hof
    refine ⟨?_, hnothing (by simp [htag]) (by simp [htag])⟩
    simp only [ofNode?, hbareTag, htag]
    rfl
  case h_4 htag =>
    cases hof
    refine ⟨?_, hnothing (by simp [htag]) (by simp [htag])⟩
    simp only [ofNode?, hbareTag, htag]
    exact congrArg (some <| number ·) (funext fun rule => hkept _ (by cases rule <;> rfl))
  case h_5 htag =>
    cases hof
    refine ⟨?_, hnothing (by simp [htag]) (by simp [htag])⟩
    simp only [ofNode?, hbareTag, htag]
    exact congrArg (some <| string ·) (funext fun rule => hkept _ (by cases rule <;> rfl))
  case h_7 htag => exact bareNode_array htag hof' hnode h
  case h_8 htag => exact bareNode_object htag hof' hnode h
  case h_9 htag => simp [Value.isModified, htag] at hnode
  case h_10 => cases hof

/-- A well-formed schema is read the same when its wrappers are taken off, but for the marks of properties. -/
theorem readsBare_of_wellFormed {v : Value} (h : (ofValue v).WellFormed) : ReadsBare v := by
  generalize hs : ofValue v = s at h
  induction s using induction_on_children generalizing v with
  | step s ih =>
    subst hs
    obtain ⟨node, hunwrap, hmodified, hof⟩ := ofValue_cases (isSchema_of_isDefective h.here)
    -- The same child can be read from several values, so the induction is on the tree and speaks of all of them.
    have hbare := bareNode_of_ofNode? hof hmodified fun child hchild x hx => ih child hchild hx (h.child hchild)
    refine ⟨isSchema_of_isDefective h.here, ?_, ?_⟩
    · rw [Value.bare_of_unwrap hunwrap, ofValue_of_ofNode? hbare.ofNode?_eq]
    · rw [Value.bare_of_unwrap hunwrap, Value.isModified, Value.tag?_bare hmodified]
      exact hmodified

/-- A well-formed schema without wrappers holds what it held, without wrappers. -/
theorem innerSchemas_bare {v : Value} (h : (ofValue v).WellFormed) :
    v.bare.innerSchemas = v.innerSchemas.map fun inner => (inner.1, inner.2.bare) := by
  obtain ⟨node, hunwrap, hmodified, hof⟩ := ofValue_cases (isSchema_of_isDefective h.here)
  have hbare := bareNode_of_ofNode? hof hmodified fun child hchild x hx =>
    readsBare_of_wellFormed (hx ▸ h.child hchild)
  have hunwrapBare : v.bare.unwrap = .ok v.bare := by
    rw [Value.unwrap, (readsBare_of_wellFormed h).isModified_eq]
    rfl
  rw [Value.innerSchemas, Value.innerSchemas, hunwrap, hunwrapBare, Value.bare_of_unwrap hunwrap]
  exact hbare.heldSchemas_eq

/-- The nodes of a well-formed schema stay when its wrappers are taken off, each without its own. -/
theorem nodes_bare {v : Value} (h : (ofValue v).WellFormed) :
    v.bare.nodes = v.nodes.map fun node => (node.1, node.2.bare) := by
  generalize hs : ofValue v = s at h
  induction s using induction_on_children generalizing v with
  | step s ih =>
    subst hs
    have hdefective : v.isDefective = false := (isDefective_ofValue v).symm.trans h.here
    have hbareDefective : v.bare.isDefective = false := by
      rw [← isDefective_ofValue, (readsBare_of_wellFormed h).ofValue_eq, isDefective_unmarked, isDefective_ofValue,
        hdefective]
    have hchildren := children_ofValue (isSchema_of_isDefective h.here)
    rw [Value.nodes_eq, Value.nodes_eq v, hdefective, hbareDefective, innerSchemas_bare h, List.flatMap_map,
      if_neg Bool.false_ne_true, if_neg Bool.false_ne_true, List.map_cons, List.map_flatMap]
    refine congrArg _ (List.flatMap_congr fun inner hinner => ?_)
    have hchild : (inner.1, ofValue inner.2) ∈ (ofValue v).children := by
      rw [hchildren]
      exact List.mem_map_of_mem hinner
    simp only [ih _ hchild rfl (h.child hchild), List.map_map, Function.comp_def]

theorem isModified_of_mem_nodes_bare {v : Value} (h : (ofValue v).WellFormed) {node : List Step × Value}
    (hnode : node ∈ v.bare.nodes) : node.2.isModified = false := by
  rw [nodes_bare h] at hnode
  obtain ⟨found, hfound, rfl⟩ := List.mem_map.1 hnode
  exact (readsBare_of_wellFormed (everywhere_of_mem_nodes h hfound)).isModified_eq

end Schema
end DataShape
