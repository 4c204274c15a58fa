import DataShape.Proofs.Schema.Check

/-! The nodes of a schema in pre-order, as they stand in the value that it is given as. The check of a schema
reports the first of them that is defective, at the path of the steps to it. -/

namespace DataShape
namespace Value

/-- The schemas that a schema without a wrapper holds, in their order. -/
def heldSchemas (node : Value) : List (Step × Value) :=
  if Variant.tuple.holds node then
    (((node.field? "items").bind elements?).getD []).zipIdx.map fun (x, i) => (.index i, x)
  else if Variant.array.holds node then (node.field? "items").toList.map fun x => (.items, x)
  else if Variant.record.holds node then (node.field? "additionalProperties").toList.map fun x => (.values, x)
  else if Variant.object.holds node then
    (((node.field? "properties").bind entries?).getD []).map fun entry => (.key entry.1, entry.2)
  else []

/-- The schemas right below a schema, each with the step to it. Wrappers are looked through. -/
def innerSchemas (v : Value) : List (Step × Value) :=
  match v.unwrap with
  | .ok node => node.heldSchemas
  | .error _ => []

/-- The names that an object requires are given as a list of names, if at all, and all of them are declared. -/
def requiresDeclared (node : Value) : Bool :=
  match Schema.requiredNames? (node.fieldOrNull "required") with
  | none => false
  | some names => names.all fun name => Entries.hasKey (((node.field? "properties").bind entries?).getD []) (.str name)

/-- No schema, or an object that requires something else than declared properties. -/
def isDefective (v : Value) : Bool :=
  !v.isSchema || match v.unwrap with
    | .ok node => Variant.object.holds node && !node.requiresDeclared
    | .error _ => true

theorem heldSchemas_of_tuple {node items : Value} {elements : List Value} (htag : node.tag? = some "array")
    (hitems : node.field? "items" = some items) (helements : items.elements? = some elements) :
    node.heldSchemas = elements.zipIdx.map fun (x, i) => (.index i, x) := by
  simp [heldSchemas, Variant.holds, Variant.tag, Variant.fits, fieldOrNull, htag, hitems, isSequence, helements]

theorem heldSchemas_of_array {node items : Value} (htag : node.tag? = some "array")
    (hitems : node.field? "items" = some items) (helements : items.elements? = none) :
    node.heldSchemas = [(.items, items)] := by
  simp [heldSchemas, Variant.holds, Variant.tag, Variant.name, Variant.fits, fieldOrNull, htag, hitems, isSequence,
    helements]

theorem heldSchemas_of_record {node values : Value} (htag : node.tag? = some "object")
    (hvalues : (node.field? "additionalProperties").filter (fun values => !values.isNull) = some values) :
    node.heldSchemas = [(.values, values)] := by
  obtain ⟨hfield, hnull⟩ := Option.filter_eq_some_iff.1 hvalues
  have hfits : values.isNull = false := by simpa using hnull
  simp [heldSchemas, Variant.holds, Variant.tag, Variant.name, Variant.fits, fieldOrNull, htag, hfield, hfits]

theorem isNull_of_filter_eq_none {node : Value}
    (hvalues : (node.field? "additionalProperties").filter (fun values => !values.isNull) = none) :
    (node.fieldOrNull "additionalProperties").isNull = true := by
  cases hfield : node.field? "additionalProperties" with
  | none => simp [fieldOrNull, hfield, isNull]
  | some values => simpa [fieldOrNull, hfield, Option.filter] using hvalues

theorem heldSchemas_of_object {node : Value} {entries : Entries} (htag : node.tag? = some "object")
    (hvalues : (node.field? "additionalProperties").filter (fun values => !values.isNull) = none)
    (hentries : (node.field? "properties").bind entries? = some entries) :
    node.heldSchemas = entries.map fun entry => (.key entry.1, entry.2) := by
  simp [heldSchemas, Variant.holds, Variant.tag, Variant.name, Variant.fits, htag, isNull_of_filter_eq_none hvalues,
    hentries]

theorem heldSchemas_eq_nil {node : Value} (harray : node.tag? ≠ some "array") (hobject : node.tag? ≠ some "object") :
    node.heldSchemas = [] := by
  simp [heldSchemas, Variant.holds, Variant.tag, Variant.name, harray, hobject]

theorem holds_of_mem_heldSchemas {node x : Value} {step : Step} (h : (step, x) ∈ node.heldSchemas) :
    node.Holds step x := by
  unfold heldSchemas at h
  split at h
  · obtain ⟨⟨y, i⟩, hy, heq⟩ := List.mem_map.1 h
    cases heq
    cases helements : (node.field? "items").bind elements? with
    | none => simp [helements] at hy
    | some elements =>
      obtain ⟨items, hitems, hof⟩ := Option.bind_eq_some_iff.1 helements
      rw [helements, Option.getD_some, List.mk_mem_zipIdx_iff_getElem?] at hy
      exact .place hitems hof hy
  · split at h
    · obtain ⟨y, hy, heq⟩ := List.mem_map.1 h
      cases heq
      exact .items (Option.mem_toList.1 hy)
    · split at h
      · obtain ⟨y, hy, heq⟩ := List.mem_map.1 h
        cases heq
        exact .values (Option.mem_toList.1 hy)
      · split at h
        · obtain ⟨entry, hentry, heq⟩ := List.mem_map.1 h
          cases heq
          cases hentries : (node.field? "properties").bind entries? with
          | none => simp [hentries] at hentry
          | some entries =>
            obtain ⟨declared, hdeclared, hof⟩ := Option.bind_eq_some_iff.1 hentries
            rw [hentries] at hentry
            exact .property hdeclared hof hentry
        · cases h

theorem Holds.sizeOf_lt {node x : Value} {step : Step} (h : node.Holds step x) : sizeOf x < sizeOf node := by
  cases h with
  | items hitems => exact sizeOf_lt_of_field hitems
  | place hitems helements hitem =>
    have hinner := sizeOf_lt_of_element helements (List.mem_of_getElem? hitem)
    exact Nat.lt_trans hinner (sizeOf_lt_of_field hitems)
  | values hvalues => exact sizeOf_lt_of_field hvalues
  | property hdeclared hentries hentry =>
    have hinner := sizeOf_lt_of_entry hentries hentry
    exact Nat.lt_trans hinner (sizeOf_lt_of_field hdeclared)

theorem exists_holds_of_mem_innerSchemas {v x : Value} {step : Step} (h : (step, x) ∈ v.innerSchemas) :
    ∃ node, v.unwrap = .ok node ∧ node.Holds step x := by
  unfold innerSchemas at h
  split at h
  · next node hnode => exact ⟨node, hnode, holds_of_mem_heldSchemas h⟩
  · cases h

theorem sizeOf_lt_of_mem_innerSchemas {v : Value} {inner : Step × Value} (h : inner ∈ v.innerSchemas) :
    sizeOf inner.2 < sizeOf v := by
  obtain ⟨node, hnode, hholds⟩ := exists_holds_of_mem_innerSchemas h
  rcases unwrap_eq_ok hnode with rfl | hitem
  · exact hholds.sizeOf_lt
  · exact Nat.lt_trans hholds.sizeOf_lt (sizeOf_lt_of_field hitem)

/-- The nodes of a schema in pre-order, each with the steps to it. Nothing below a defective node is one. -/
def nodes (v : Value) : List (List Step × Value) :=
  ([], v) :: if v.isDefective then [] else
    v.innerSchemas.attach.flatMap fun inner => (nodes inner.1.2).map fun node => (inner.1.1 :: node.1, node.2)
termination_by sizeOf v
decreasing_by exact sizeOf_lt_of_mem_innerSchemas inner.2

theorem nodes_eq (v : Value) :
    v.nodes = ([], v) :: if v.isDefective then [] else
      v.innerSchemas.flatMap fun inner => inner.2.nodes.map fun node => (inner.1 :: node.1, node.2) := by
  rw [nodes, List.flatMap_subtype (g := fun inner => inner.2.nodes.map fun node => (inner.1 :: node.1, node.2))
    (fun _ _ => rfl), List.unattach_attach]

theorem find?_nodes_of_isDefective {v : Value} (h : v.isDefective = true) :
    v.nodes.find? (·.2.isDefective) = some ([], v) := by
  rw [nodes_eq]
  exact List.find?_cons_of_pos h

theorem find?_nodes_of_inner {v x : Value} {step : Step} {rest : List (Step × Value)}
    (hv : v.isDefective = false) (hinner : v.innerSchemas = (step, x) :: rest) {location : List Step} {node : Value}
    (hx : x.nodes.find? (·.2.isDefective) = some (location, node)) :
    v.nodes.find? (·.2.isDefective) = some (step :: location, node) := by
  rw [nodes_eq, hv, hinner, List.find?_cons_of_neg (by rw [hv]; exact Bool.false_ne_true),
    if_neg Bool.false_ne_true, List.flatMap_cons, List.find?_append, List.find?_map]
  simp only [Function.comp_def, hx, Option.map_some, Option.some_or]

theorem hasNode_of_mem_nodes {v : Value} {node : List Step × Value} (h : node ∈ v.nodes) :
    v.HasNode node.1 node.2 := by
  rw [nodes_eq] at h
  rcases List.mem_cons.1 h with rfl | h
  · exact .root v
  · split at h
    · cases h
    · obtain ⟨inner, hinner, h⟩ := List.mem_flatMap.1 h
      obtain ⟨found, hfound, rfl⟩ := List.mem_map.1 h
      obtain ⟨node, hunwrap, hholds⟩ := exists_holds_of_mem_innerSchemas hinner
      exact .child hunwrap hholds (hasNode_of_mem_nodes hfound)
termination_by sizeOf v
decreasing_by exact sizeOf_lt_of_mem_innerSchemas hinner

theorem HasNode.everywhere {P : Value → Prop} {v w : Value} {location : List Step} (h : v.HasNode location w)
    (hv : v.Everywhere P) : w.Everywhere P := by
  induction h with
  | root => exact hv
  | child hnode hstep _ ih => exact ih ((hv.node hnode).holds hstep)

theorem Holds.text_succeeds {node x : Value} {step : Step} (h : node.Holds step x) (hnode : node.WithinDigitLimit) :
    ∃ text, step.text = .ok text := by
  cases h with
  | property hdeclared hentries hentry =>
    exact plain_succeeds ((hnode.field hdeclared).entry hentries hentry).1
  | _ => exact ⟨_, rfl⟩

theorem HasNode.path_succeeds {v w : Value} {location : List Step} (h : v.HasNode location w)
    (hv : v.WithinDigitLimit) : ∃ place, Step.path location = .ok place := by
  induction h with
  | root => exact ⟨"", rfl⟩
  | child hnode hstep _ ih =>
    have hheld := hv.node hnode
    refine bind_succeeds (hstep.text_succeeds hheld) fun text _ => ?_
    exact bind_succeeds (ih (hheld.holds hstep)) fun _ _ => ⟨_, rfl⟩

end Value

namespace Schema

theorem declares_map_ofEntry (entries : Entries) (names : List String) :
    declares (entries.map Property.ofEntry) names = names.all fun name => entries.hasKey (.str name) := by
  simp only [declares, List.any_map, Entries.hasKey, Entries.lookup?, Option.isSome_map, List.isSome_find?]
  rfl

/-- A schema without a wrapper has the children that it holds, and is defective if it is so as a value. -/
theorem children_of_ofNode? {node : Value} {s : Schema} (h : ofNode? node = some s) (hnode : node.isModified = false) :
    s.children = node.heldSchemas.map (fun inner => (inner.1, ofValue inner.2)) ∧
      s.isDefective = (Variant.object.holds node && !node.requiresDeclared) := by
  unfold ofNode? at h
  split at h
  case h_1 htag | h_2 htag | h_3 htag | h_4 htag | h_5 htag | h_6 htag =>
    cases h
    rw [Value.heldSchemas_eq_nil (by simp [htag]) (by simp [htag])]
    simp [children, isDefective, Variant.holds, Variant.tag, Variant.name, htag]
  case h_7 htag =>
    obtain ⟨items, hitems, rfl⟩ := Option.map_eq_some_iff.1 h
    cases helements : items.elements? with
    | none =>
      rw [Value.heldSchemas_of_array htag hitems helements]
      simp [children, isDefective, Variant.holds, Variant.tag, Variant.name, htag]
    | some elements =>
      rw [Value.heldSchemas_of_tuple htag hitems helements]
      simp [children, isDefective, Variant.holds, Variant.tag, Variant.name, htag, List.zipIdx_map, Function.comp_def]
  case h_8 htag =>
    split at h
    · next values hvalues =>
      cases h
      obtain ⟨hfield, hnull⟩ := Option.filter_eq_some_iff.1 hvalues
      have hfits : values.isNull = false := by simpa using hnull
      rw [Value.heldSchemas_of_record htag hvalues]
      simp [children, isDefective, Variant.holds, Variant.tag, Variant.name, Variant.fits, Value.fieldOrNull, htag,
        hfield, hfits]
    · next hvalues =>
      obtain ⟨entries, hentries, rfl⟩ := Option.map_eq_some_iff.1 h
      rw [Value.heldSchemas_of_object htag hvalues hentries]
      refine ⟨by simp [children, Property.ofEntry, Function.comp_def], ?_⟩
      simp only [isDefective, Value.requiresDeclared, Variant.holds, Variant.tag, Variant.name, Variant.fits, htag,
        Value.isNull_of_filter_eq_none hvalues, hentries, BEq.rfl, Bool.true_and, Option.getD_some]
      cases requiredNames? (node.fieldOrNull "required") <;> simp [declares_map_ofEntry]
  case h_9 htag => simp [Value.isModified, htag] at hnode
  case h_10 => cases h

theorem isDefective_ofValue (v : Value) : (ofValue v).isDefective = v.isDefective := by
  cases hschema : v.isSchema with
  | false =>
    have hvalid : (ofValue v).isValid = false := hschema
    rw [Value.isDefective, hschema, Bool.not_false, Bool.true_or]
    cases hs : ofValue v <;> first | rfl | (rw [hs] at hvalid; cases hvalid)
  | true =>
    obtain ⟨node, hnode, hmodified, hof⟩ := ofValue_cases hschema
    rw [(children_of_ofNode? hof hmodified).2, Value.isDefective, hschema, hnode, Bool.not_true, Bool.false_or]

theorem isSchema_of_not_isDefective {v : Value} (h : v.isDefective = false) : v.isSchema = true := by
  simp only [Value.isDefective, Bool.or_eq_false_iff, Bool.not_eq_false'] at h
  exact h.1

theorem children_ofValue {v : Value} (h : v.isSchema = true) :
    (ofValue v).children = v.innerSchemas.map fun inner => (inner.1, ofValue inner.2) := by
  obtain ⟨node, hnode, hmodified, hof⟩ := ofValue_cases h
  rw [(children_of_ofNode? hof hmodified).1, Value.innerSchemas, hnode]

theorem everywhere_of_mem_nodes {P : Schema → Prop} {v : Value} (h : (ofValue v).Everywhere P)
    {node : List Step × Value} (hnode : node ∈ v.nodes) : (ofValue node.2).Everywhere P := by
  generalize hs : ofValue v = s at h
  induction s using induction_on_children generalizing v node with
  | step s ih =>
    subst hs
    rw [Value.nodes_eq] at hnode
    rcases List.mem_cons.1 hnode with rfl | hnode
    · exact h
    · split at hnode
      · cases hnode
      · next hdefective =>
        obtain ⟨inner, hinner, hnode⟩ := List.mem_flatMap.1 hnode
        obtain ⟨found, hfound, rfl⟩ := List.mem_map.1 hnode
        have hschema := isSchema_of_not_isDefective (Bool.eq_false_iff.2 hdefective)
        have hchild : (inner.1, ofValue inner.2) ∈ (ofValue v).children := by
          rw [children_ofValue hschema]
          exact List.mem_map_of_mem hinner
        have hbelow := ih _ hchild hfound rfl (h.child hchild)
        exact hbelow

end Schema

/-- What the check says of a node, at the path of the steps to it. -/
def reportAt (path : String) (node : List Step × Value) : Outcome Unit := do
  let place ← Step.path node.1
  (Schema.ofValue node.2).checkNode (path ++ place)

theorem reportAt_root (path : String) (v : Value) : reportAt path ([], v) = (Schema.ofValue v).checkNode path := by
  simp [reportAt, Step.path]

theorem reportAt_cons {step : Step} {text : String} (htext : step.text = .ok text) (path : String)
    (location : List Step) (v : Value) :
    reportAt path (step :: location, v) = reportAt (path ++ "/" ++ text) (location, v) := by
  simp only [reportAt, Step.path, htext, ok_bind, bind_assoc, pure_bind, String.append_assoc]

theorem reportAt_ne_ok {path : String} {node : List Step × Value} (h : node.2.isDefective = true) :
    reportAt path node ≠ .ok () := by
  intro hok
  obtain ⟨place, -, hnode⟩ := bind_eq_ok.1 hok
  rw [← Schema.isDefective_ofValue, Schema.checkNode_eq_ok hnode] at h
  cases h

/-- The check of a schema says what it says of the first node in pre-order that is defective. -/
theorem checkSchema_eq_first {v : Value} (hv : v.WithinDigitLimit) (path : String) :
    checkSchema v path = ((v.nodes.find? fun node => node.2.isDefective).map (reportAt path)).getD (.ok ()) := by
  generalize hs : Schema.ofValue v = s
  induction s using Schema.induction_on_children generalizing v path with
  | step s ih =>
    subst hs
    rw [checkSchema, Schema.check_eq]
    cases hdefective : v.isDefective with
    | true =>
      rw [Value.find?_nodes_of_isDefective hdefective, Option.map_some, Option.getD_some, reportAt_root]
      cases hnode : (Schema.ofValue v).checkNode path with
      | error e => rfl
      | ok u => exact absurd ((reportAt_root path v).trans hnode) (reportAt_ne_ok hdefective)
    | false =>
      have hchildren := Schema.children_ofValue (Schema.isSchema_of_not_isDefective hdefective)
      have hnode : (Schema.ofValue v).checkNode path = .ok () := by
        cases hnode : (Schema.ofValue v).checkNode path with
        | ok u => rfl
        | error e =>
          rw [← Schema.isDefective_ofValue, Schema.checkNode_eq_error hnode] at hdefective
          cases hdefective
      rw [Value.nodes_eq, hdefective, List.find?_cons_of_neg (by rw [hdefective]; exact Bool.false_ne_true),
        if_neg Bool.false_ne_true, List.find?_flatMap, hnode, ok_bind, hchildren, List.forM_map]
      simp only [List.find?_map]
      refine forM_eq_findSome? fun inner hinner => ⟨?_, fun node hnode => reportAt_ne_ok ?_⟩
      · have hchild : (inner.1, Schema.ofValue inner.2) ∈ (Schema.ofValue v).children := by
          rw [hchildren]
          exact List.mem_map_of_mem hinner
        obtain ⟨node, hunwrap, hholds⟩ := Value.exists_holds_of_mem_innerSchemas hinner
        obtain ⟨text, htext⟩ := hholds.text_succeeds (hv.node hunwrap)
        have hcheck := ih _ hchild ((hv.node hunwrap).holds hholds) (path ++ "/" ++ text) rfl
        simp only [Schema.checkChild, htext, ok_bind]
        rw [← checkSchema, hcheck, Option.map_map]
        exact congrArg (Option.getD · _) (congrArg (Option.map · _) (funext fun node => (reportAt_cons htext path _ _).symm))
      · obtain ⟨found, hfound, rfl⟩ := Option.map_eq_some_iff.1 hnode
        simpa using List.find?_some hfound

/-- A failure that reports what is wrong with a node, at a place. -/
structure Failure.ReportsNode (e : Failure) (place : String) (node : Value) : Prop where
  kind_eq : e.kind = .schema
  /-- No schema: the value that stands there is shown. -/
  invalid : node.isSchema = false → ∃ shown, node.literal = .ok shown ∧
    e.message = shownPath place ++ ": invalid schema node " ++ shown
  required : node.isSchema = true → e.message = shownPath place ++ ": \x27required\x27 must list declared properties"

theorem checkNode_of_isDefective {node : Value} (hnode : node.WithinDigitLimit) (h : node.isDefective = true)
    (place : String) : ∃ e, (Schema.ofValue node).checkNode place = .error e ∧ e.ReportsNode place node := by
  cases hs : Schema.ofValue node with
  | invalid w =>
    obtain rfl := Schema.eq_of_ofValue_eq_invalid hs
    obtain ⟨shown, hshown⟩ := Value.literal_succeeds hnode
    have hschema : w.isSchema = false := by rw [Value.isSchema, hs]; rfl
    refine ⟨.defect (.invalidNode place shown), by simp [Schema.checkNode, hshown], rfl, fun _ => ⟨shown, hshown, rfl⟩, ?_⟩
    rw [hschema]
    exact fun h => absurd h Bool.false_ne_true
  | _ =>
    have hschema : node.isSchema = true := by rw [Value.isSchema, hs]; rfl
    rw [← Schema.isDefective_ofValue, hs] at h
    refine ⟨.defect (.undeclaredRequired place), by simp [Schema.checkNode, h], rfl, ?_, fun _ => rfl⟩
    rw [hschema]
    exact fun h => absurd h.symm Bool.false_ne_true

theorem check_of_first_defect {schema node : Value} {location : List Step} (hlimit : schema.WithinDigitLimit)
    (h : schema.nodes.find? (·.2.isDefective) = some (location, node)) (path : String) :
    ∃ below e, Step.path location = .ok below ∧ checkSchema schema path = .error e ∧
      e.ReportsNode (path ++ below) node := by
  have hnode := Value.hasNode_of_mem_nodes (List.mem_of_find?_eq_some h)
  obtain ⟨below, hbelow⟩ := hnode.path_succeeds hlimit
  obtain ⟨e, he, hreports⟩ := checkNode_of_isDefective (hnode.everywhere hlimit) (by simpa using List.find?_some h)
    (path ++ below)
  refine ⟨below, e, hbelow, ?_, hreports⟩
  rw [checkSchema_eq_first hlimit path, h, Option.map_some, Option.getD_some, reportAt, hbelow, ok_bind, he]

/-- A schema fails the check just if one of its nodes is defective, and passes it otherwise. The first such node in
pre-order is reported, at the path of the steps to it: as no schema, with the value that stands there, or for the
names that it requires. -/
theorem check_reports_first_defect (schema : Value) (path : String) (hlimit : schema.WithinDigitLimit) :
    ((∃ e, checkSchema schema path = .error e ∧ e.kind = .schema) ↔
      ∃ node ∈ schema.nodes, node.2.isDefective = true) ∧
    (checkSchema schema path = .ok () ↔ ∀ node ∈ schema.nodes, node.2.isDefective = false) ∧
    ∀ location node, schema.nodes.find? (·.2.isDefective) = some (location, node) →
      ∃ below e, Step.path location = .ok below ∧ checkSchema schema path = .error e ∧
        e.ReportsNode (path ++ below) node := by
  cases hfirst : schema.nodes.find? (·.2.isDefective) with
  | none =>
    have hcheck := checkSchema_eq_first hlimit path
    have hnone : ∀ node ∈ schema.nodes, node.2.isDefective = false := by simpa using hfirst
    rw [hfirst, Option.map_none, Option.getD_none] at hcheck
    refine ⟨⟨?_, ?_⟩, ⟨fun _ => hnone, fun _ => hcheck⟩, fun _ _ h => by cases h⟩
    · rintro ⟨e, he, -⟩
      rw [hcheck] at he
      cases he
    · rintro ⟨node, hnode, hdefective⟩
      rw [hnone node hnode] at hdefective
      cases hdefective
  | some first =>
    obtain ⟨location, node⟩ := first
    have hreport := check_of_first_defect hlimit hfirst path
    obtain ⟨below, e, -, he, hreports⟩ := hreport
    have hmem := List.mem_of_find?_eq_some hfirst
    have hdefective : node.isDefective = true := by simpa using List.find?_some hfirst
    refine ⟨⟨fun _ => ⟨_, hmem, hdefective⟩, fun _ => ⟨e, he, hreports.kind_eq⟩⟩, ⟨?_, ?_⟩, ?_⟩
    · rw [he]
      exact fun h => by cases h
    · intro hall
      rw [hall _ hmem] at hdefective
      cases hdefective
    · rintro _ _ ⟨rfl⟩
      exact check_of_first_defect hlimit hfirst path

/-- Nothing stands for the items of an array in a wrapper, in an object whose next property requires what it does not
declare. -/
theorem check_reports_missing_items :
    ∃ below e, Step.path [.key (.str "points"), .items] = .ok below ∧
      checkSchema (.ofFields [("type", .str "object"), ("properties", .ofFields [
        ("points", .ofFields [("type", .str "modified"), ("item", .ofFields [
          ("type", .str "array"), ("items", .null)])]),
        ("size", .ofFields [("type", .str "object"), ("properties", .ofFields []),
          ("required", .list [.str "width"])])])]) "/shape" = .error e ∧
      e.ReportsNode ("/shape" ++ below) .null := by
  refine (check_reports_first_defect _ _ ?_).2.2 _ _ ?_
  · simp [Value.WithinDigitLimit, Value.IsWritableNumber, Value.ofFields]
  · refine Value.find?_nodes_of_inner rfl rfl ?_
    refine Value.find?_nodes_of_inner rfl rfl ?_
    exact Value.find?_nodes_of_isDefective rfl

end DataShape
