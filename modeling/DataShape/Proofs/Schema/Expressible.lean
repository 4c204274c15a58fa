import DataShape.Proofs.Schema.Relaxation
import DataShape.Proofs.Schema.Variant
import DataShape.Proofs.Value.Keys

/-! Schemas that can be written as types, against schemas that pass the check. Writing goes through a schema in the
order of the check, but asks less of an object: the names that it requires need not be declared. So writing comes to
the end wherever the check does, and where only writing does, such names are all that is wrong. -/

namespace DataShape

namespace Schema

theorem expressions_eq_mapM (items : List Schema) : expressions items = items.mapM expression := by
  induction items with
  | nil => rfl
  | cons item items ih => rw [expressions, ih, List.mapM_cons]

theorem propertyTexts_eq_mapM (required : List String) (properties : List (Property Schema)) :
    propertyTexts required properties = properties.mapM fun property => do
      let name ← property.key.plain
      return propertyText required name ⟨property.key, property.isReadonly, ()⟩
        (← property.schema.expression) := by
  induction properties with
  | nil => rfl
  | cons property properties ih =>
    obtain ⟨key, isReadonly, schema⟩ := property
    rw [propertyTexts, ih, List.mapM_cons]
    simp only [bind_assoc, pure_bind]

/-- What keeps a node from being written as a type, whatever stands below it. -/
def expressNode : Schema → Outcome Unit
  | .invalid _ => throw (.defect .unrecognised)
  | .object _ required =>
    match requiredNames? required with
    | none => do throw (.defect (.invalidRequired (← required.literal)))
    | some _ => return
  | _ => return

/-- How the writing of what a step leads to ends. -/
def expressChild (child : Step × Schema) : Outcome Unit := do
  let _ ← child.1.text
  ending child.2.expression

theorem ending_expression (s : Schema) :
    ending s.expression = (do s.expressNode; forM s.children expressChild) := by
  cases s with
  | array items | record items =>
    simp only [expression, pure_eq_ok, ending_bind_ok, children, List.forM_cons, expressNode, expressChild, Step.text,
      ok_bind]
    cases items.expression <;> rfl
  | tuple items =>
    simp only [expression, expressions_eq_mapM, pure_eq_ok, ending_bind_ok, ending_mapM, children, expressNode, ok_bind,
      List.forM_map, expressChild, Step.text]
    conv_lhs => rw [← List.zipIdx_map_fst 0 items, List.forM_map]
  | object properties required =>
    rw [children, expression, expressNode]
    cases requiredNames? required with
    | none => cases required.literal <;> rfl
    | some names =>
      simp only [propertyTexts_eq_mapM, pure_eq_ok, ending_bind_ok, ending_mapM, ok_bind, List.forM_map]
      refine forM_congr fun property _ => ?_
      rw [ending_bind]
      simp only [ending_bind_ok]
      rfl
  | _ => rfl

end Schema

namespace Value

/-- What is given as the names that an object requires is nothing, or a list or tuple of names. -/
def RequiresNames (node : Value) : Prop :=
  node.field? "required" = none ∨ node.field? "required" = some .null ∨
    ∃ (given : Value) (names : List String),
      node.field? "required" = some given ∧ given.elements? = some (names.map .str)

theorem requiresNames_iff {node : Value} :
    node.RequiresNames ↔ ∃ names, Schema.requiredNames? (node.fieldOrNull "required") = some names := by
  unfold RequiresNames Schema.requiredNames? fieldOrNull
  cases node.field? "required" with
  | none => simp [isNull]
  | some given => cases given <;> simp [isNull, keyList?_eq_some, elements?]

/-- Is a schema, and if it is one of objects, gives the names that it requires as such. -/
structure IsExpressible (v : Value) : Prop where
  isSchema : v.isSchema = true
  requiresNames : ∀ node, v.unwrap = .ok node → Variant.object.holds node = true → node.RequiresNames

/-- Some steps lead to what stands for a schema inside a schema, each step from one to one right below it. -/
inductive HasSchema : Value → List Step → Value → Prop
  | here (v : Value) : HasSchema v [] v
  | inside {v x w : Value} {step : Step} {location : List Step} (hinner : (step, x) ∈ v.innerSchemas)
      (rest : HasSchema x location w) : HasSchema v (step :: location) w

/-- Some steps lead to a node that is come to while a schema is written as a type: what is above it can be written, and
all that stands before it on the way has been. -/
inductive WritingReaches : Value → List Step → Value → Prop
  | here (v : Value) : WritingReaches v [] v
  | inside {v x w : Value} {step : Step} {before after : List (Step × Value)} {location : List Step}
      (hv : v.IsExpressible) (hinner : v.innerSchemas = before ++ (step, x) :: after)
      (hbefore : ∀ y ∈ before, ∃ text, typeExpression y.2 = .ok text) (rest : WritingReaches x location w) :
      WritingReaches v (step :: location) w

/-- Is an object that requires names, and one of them is not that of a declared property. -/
def RequiresUndeclared (v : Value) : Prop :=
  ∃ (node given declared : Value) (names : List String) (entries : Entries) (name : String),
    v.unwrap = .ok node ∧ Variant.object.holds node = true ∧
    node.field? "required" = some given ∧ given.elements? = some (names.map .str) ∧
    node.field? "properties" = some declared ∧ declared.entries? = some entries ∧
    name ∈ names ∧ entries.hasKey (.str name) = false

end Value

/-- A failure that refuses to write a node as a type. -/
structure Failure.RefusesNode (e : Failure) (node : Value) : Prop where
  kind_eq : e.kind = .schema
  invalid : node.isSchema = false → e.message = "Invalid schema"
  /-- An object requires something that is shown. -/
  required : node.isSchema = true → ∃ object shown, node.unwrap = .ok object ∧
    (object.fieldOrNull "required").literal = .ok shown ∧ e.message = "Invalid required option " ++ shown

namespace Schema

theorem eq_object_of_holds {node : Value} {s : Schema} (h : ofNode? node = some s)
    (hnode : Variant.object.holds node = true) :
    ∃ entries, (node.field? "properties").bind Value.entries? = some entries ∧
      s = .object (entries.map Property.ofEntry) (node.fieldOrNull "required") := by
  obtain ⟨htag, -⟩ := Variant.holds_iff.1 hnode
  simp only [ofNode?, htag, Variant.tag, Variant.name, filter_values_of_object hnode, Option.map_eq_some_iff] at h
  obtain ⟨entries, hentries, rfl⟩ := h
  exact ⟨entries, hentries, rfl⟩

theorem holds_of_ofNode?_object {node : Value} {properties : List (Property Schema)} {required : Value}
    (h : ofNode? node = some (.object properties required)) (hnode : node.isModified = false) :
    Variant.object.holds node = true := by
  obtain ⟨variant, hholds, -, hread⟩ := Variant.exists_holds hnode h
  cases variant with
  | object => exact hholds
  | _ => cases hread

theorem expressNode_object {properties : List (Property Schema)} {required : Value} :
    (object properties required).expressNode = .ok () ↔ ∃ names, requiredNames? required = some names := by
  rw [expressNode]
  cases requiredNames? required with
  | none => cases required.literal <;> simp
  | some names => simp

theorem isExpressible_iff {v : Value} : v.IsExpressible ↔ (ofValue v).expressNode = .ok () := by
  constructor
  · rintro ⟨hschema, hrequires⟩
    obtain ⟨node, hnode, hmodified, hof⟩ := ofValue_cases hschema
    cases hs : ofValue v with
    | invalid w =>
      rw [isSchema_eq_false_iff.2 ⟨w, hs⟩] at hschema
      cases hschema
    | object properties required =>
      rw [hs] at hof
      have hholds := holds_of_ofNode?_object hof hmodified
      obtain ⟨entries, -, hobject⟩ := eq_object_of_holds hof hholds
      rw [hobject]
      exact expressNode_object.2 (Value.requiresNames_iff.1 (hrequires node hnode hholds))
    | _ => rfl
  · intro h
    have hschema : v.isSchema = true := isSchema_of_ne_invalid fun w hw => by
      rw [hw] at h
      cases h
    refine ⟨hschema, fun node hnode hholds => ?_⟩
    obtain ⟨node', hnode', hmodified, hof⟩ := ofValue_cases hschema
    rw [hnode] at hnode'
    cases hnode'
    obtain ⟨entries, -, hs⟩ := eq_object_of_holds hof hholds
    rw [hs] at h
    exact Value.requiresNames_iff.2 (expressNode_object.1 h)

theorem expressNode_of_not_isDefective {s : Schema} (h : s.isDefective = false) : s.expressNode = .ok () := by
  cases s with
  | invalid v => cases h
  | object properties required =>
    obtain ⟨names, hnames, -⟩ := exists_names_of_isDefective h
    exact expressNode_object.2 ⟨names, hnames⟩
  | _ => rfl

/-- What keeps a node from being written is shown, if it can be. -/
theorem exists_refusal {v : Value} (hlimit : v.WithinDigitLimit) (h : ¬ v.IsExpressible) :
    ∃ e, (ofValue v).expressNode = .error e ∧ e.RefusesNode v := by
  cases hschema : v.isSchema with
  | false =>
    obtain ⟨w, hw⟩ := isSchema_eq_false_iff.1 hschema
    refine ⟨.defect .unrecognised, by rw [hw]; rfl, rfl, fun _ => rfl, ?_⟩
    rw [hschema]
    exact fun h => absurd h Bool.false_ne_true
  | true =>
    obtain ⟨node, hnode, -, hof⟩ := ofValue_cases hschema
    obtain ⟨hholds, hrequires⟩ : Variant.object.holds node = true ∧ ¬ node.RequiresNames := by
      rw [← Classical.not_imp]
      intro hnames
      exact h ⟨hschema, fun node' hnode' => Except.ok.inj (hnode.symm.trans hnode') ▸ hnames⟩
    obtain ⟨entries, -, hs⟩ := eq_object_of_holds hof hholds
    obtain ⟨shown, hshown⟩ := Value.literal_succeeds ((hlimit.node hnode).fieldOrNull trivial "required")
    have hnone : requiredNames? (node.fieldOrNull "required") = none := by
      rw [Option.eq_none_iff_forall_ne_some]
      exact fun names hnames => hrequires (Value.requiresNames_iff.2 ⟨names, hnames⟩)
    refine ⟨.defect (.invalidRequired shown), by simp [hs, expressNode, hnone, hshown], rfl, ?_, fun _ => ?_⟩
    · rw [hschema]
      exact fun h => absurd h.symm Bool.false_ne_true
    · exact ⟨node, shown, hnode, hshown, rfl⟩

end Schema

namespace Value

/-- One step: a schema is written as a type if its node can be, and then all that it holds. -/
theorem typeExpression_succeeds {v : Value} :
    (∃ text, typeExpression v = .ok text) ↔ v.IsExpressible ∧
      ∀ inner ∈ v.innerSchemas, (∃ text, inner.1.text = .ok text) ∧ ∃ text, typeExpression inner.2 = .ok text := by
  rw [← ending_eq_ok, typeExpression, Schema.ending_expression, bind_eq_ok, Schema.isExpressible_iff]
  simp only [Unique.exists_iff, PUnit.default_eq_unit, forM_eq_ok]
  refine and_congr_right fun hnode => ?_
  rw [Schema.children_ofValue (Schema.isExpressible_iff.2 hnode).isSchema, List.forall_mem_map]
  refine forall₂_congr fun inner _ => ?_
  simp only [Schema.expressChild, bind_eq_ok, ending_eq_ok, typeExpression]
  constructor
  · rintro ⟨text, htext, h⟩
    exact ⟨⟨text, htext⟩, h⟩
  · rintro ⟨⟨text, htext⟩, h⟩
    exact ⟨text, htext, h⟩

/-- Where a schema is not written as a type, a node that is come to is refused. -/
theorem exists_refused {v : Value} {e : Failure} (hlimit : v.WithinDigitLimit) (h : typeExpression v = .error e) :
    ∃ location w, v.WritingReaches location w ∧ ¬ w.IsExpressible ∧ e.RefusesNode w := by
  by_cases hv : v.IsExpressible
  · have hnode := Schema.isExpressible_iff.1 hv
    rw [← ending_eq_error, typeExpression, Schema.ending_expression, hnode, ok_bind,
      Schema.children_ofValue hv.isSchema, List.forM_map, forM_eq_error] at h
    -- All before the first that is not written has been, and the node that is refused lies below that one.
    obtain ⟨before, ⟨step, x⟩, after, hinner, hbefore, hx⟩ := h
    have hmem : (step, x) ∈ v.innerSchemas := by rw [hinner]; simp
    obtain ⟨node, hunwrap, hholds⟩ := exists_holds_of_mem_innerSchemas hmem
    obtain ⟨text, htext⟩ := hholds.text_succeeds (hlimit.node hunwrap)
    simp only [Schema.expressChild, htext, ok_bind, ending_eq_error] at hx
    have hlt := sizeOf_lt_of_mem_innerSchemas hmem
    obtain ⟨location, w, hreach, hw⟩ := exists_refused ((hlimit.node hunwrap).holds hholds) hx
    refine ⟨step :: location, w, .inside hv hinner (fun y hy => ?_) hreach, hw⟩
    obtain ⟨text, -, hwritten⟩ := bind_eq_ok.1 (hbefore y hy)
    exact ending_eq_ok.1 hwritten
  · obtain ⟨e', he', hrefuses⟩ := Schema.exists_refusal hlimit hv
    rw [← ending_eq_error, typeExpression, Schema.ending_expression, he', error_bind, Except.error.injEq] at h
    exact ⟨[], v, .here v, hv, h ▸ hrefuses⟩
termination_by sizeOf v

theorem WritingReaches.hasSchema {v w : Value} {location : List Step} (h : v.WritingReaches location w) :
    v.HasSchema location w := by
  induction h with
  | here v => exact .here v
  | inside _ hinner _ _ ih =>
    refine .inside ?_ ih
    rw [hinner]
    exact List.mem_append_right _ List.mem_cons_self

theorem HasSchema.succeeds {v w : Value} {location : List Step} (h : v.HasSchema location w)
    (hv : ∃ text, typeExpression v = .ok text) : ∃ text, typeExpression w = .ok text := by
  induction h with
  | here => exact hv
  | inside hinner _ ih => exact ih ((typeExpression_succeeds.1 hv).2 _ hinner).2

theorem HasSchema.isExpressible {v w : Value} {location : List Step} (h : v.HasSchema location w)
    (hv : ∃ text, typeExpression v = .ok text) : w.IsExpressible :=
  (typeExpression_succeeds.1 (h.succeeds hv)).1

/-- A schema is written as a type just if all nodes that are come to can be written. -/
theorem typeExpression_succeeds_iff_reached {v : Value} (hlimit : v.WithinDigitLimit) :
    (∃ text, typeExpression v = .ok text) ↔
      ∀ location w, v.WritingReaches location w → w.IsExpressible := by
  constructor
  · exact fun hv location w hreach => hreach.hasSchema.isExpressible hv
  · intro hall
    cases h : typeExpression v with
    | ok text => exact ⟨text, rfl⟩
    | error e =>
      obtain ⟨location, w, hreach, hw, -⟩ := exists_refused hlimit h
      exact absurd (hall location w hreach) hw

/-- Nothing but well-formed nodes are come to in a schema that is well formed. -/
theorem WritingReaches.wellFormed {v w : Value} {location : List Step} (h : v.WritingReaches location w)
    (hv : (Schema.ofValue v).WellFormed) : (Schema.ofValue w).WellFormed := by
  induction h with
  | here => exact hv
  | @inside v x _ step _ _ _ hv' hinner _ _ ih =>
    have hmem : (step, Schema.ofValue x) ∈ (Schema.ofValue v).children := by
      rw [Schema.children_ofValue hv'.isSchema, hinner]
      simp
    exact ih (hv.child hmem)

theorem hasSchema_of_mem_nodes {v : Value} {node : List Step × Value} (h : node ∈ v.nodes) :
    v.HasSchema node.1 node.2 := by
  rw [nodes_eq] at h
  rcases List.mem_cons.1 h with rfl | h
  · exact .here v
  · split at h
    · cases h
    · obtain ⟨inner, hinner, h⟩ := List.mem_flatMap.1 h
      obtain ⟨found, hfound, rfl⟩ := List.mem_map.1 h
      have hlt := sizeOf_lt_of_mem_innerSchemas hinner
      exact .inside hinner (hasSchema_of_mem_nodes hfound)
termination_by sizeOf v

/-- A node that can be written is defective for no more than a name that it requires. -/
theorem IsExpressible.requiresUndeclared {v : Value} (h : v.IsExpressible) (hv : v.isDefective = true) :
    v.RequiresUndeclared := by
  obtain ⟨node, hnode, -, hof⟩ := Schema.ofValue_cases h.isSchema
  simp only [isDefective, h.isSchema, hnode, Bool.not_true, Bool.false_or, Bool.and_eq_true, Bool.not_eq_true'] at hv
  obtain ⟨hholds, hundeclared⟩ := hv
  obtain ⟨entries, hentries, -⟩ := Schema.eq_object_of_holds hof hholds
  obtain ⟨declared, hdeclared, hentries'⟩ := Option.bind_eq_some_iff.1 hentries
  rw [requiresDeclared, hentries, Option.getD_some] at hundeclared
  rcases h.requiresNames node hnode hholds with hnone | hnull | ⟨given, names, hgiven, hnames⟩
  · simp [fieldOrNull, hnone, Schema.requiredNames?, isNull] at hundeclared
  · simp [fieldOrNull, hnull, Schema.requiredNames?, isNull] at hundeclared
  · have hrequired : Schema.requiredNames? (node.fieldOrNull "required") = some names := by
      rw [fieldOrNull, hgiven, Option.getD_some, Schema.requiredNames?, keyList?_eq_some.2 hnames]
      cases given <;> first | rfl | cases hnames
    simp only [hrequired, List.all_eq_false] at hundeclared
    obtain ⟨name, hname, hmissing⟩ := hundeclared
    exact ⟨node, given, declared, names, entries, name, hnode, hholds, hgiven, hnames, hdeclared, hentries', hname,
      by simpa using hmissing⟩

end Value

/-- A schema is written as a type just if every node that is come to is a schema, and every object among these gives the
names that it requires as such; it is the same to ask this of all that stands for a schema inside it. Else a node that
is come to is refused. What passes the check is written, and what is written but fails the check is defective for no
more than names that are not declared. -/
theorem typeExpression_agrees_with_check (schema : Value) (hlimit : schema.WithinDigitLimit) :
    ((∃ text, typeExpression schema = .ok text) ↔
      ∀ location node, schema.WritingReaches location node → node.IsExpressible) ∧
    ((∃ text, typeExpression schema = .ok text) ↔
      ∀ location node, schema.HasSchema location node → node.IsExpressible) ∧
    (∀ e, typeExpression schema = .error e →
      e.kind = .schema ∧
        ∃ location node, schema.WritingReaches location node ∧ ¬ node.IsExpressible ∧ e.RefusesNode node) ∧
    (∀ path, checkSchema schema path = .ok () → ∃ text, typeExpression schema = .ok text) ∧
    ∀ text path e, typeExpression schema = .ok text → checkSchema schema path = .error e →
      (∀ location node, schema.HasSchema location node → node.isDefective = true → node.RequiresUndeclared) ∧
      ∃ location node below, schema.HasSchema location node ∧ node.RequiresUndeclared ∧
        Step.path location = .ok below ∧
        e.message = shownPath (path ++ below) ++ ": \x27required\x27 must list declared properties" := by
  have hreached := Value.typeExpression_succeeds_iff_reached hlimit
  refine ⟨hreached, ⟨fun htext location node hinside => hinside.isExpressible htext, fun hall => ?_⟩, fun e he => ?_,
    fun path hcheck => ?_, fun text path e htext hcheck => ⟨fun location node hinside => ?_, ?_⟩⟩
  · exact hreached.2 fun location node hreach => hall location node hreach.hasSchema
  · obtain ⟨location, node, hreach, hnode, hrefuses⟩ := Value.exists_refused hlimit he
    exact ⟨hrefuses.kind_eq, location, node, hreach, hnode, hrefuses⟩
  · refine hreached.2 fun location node hreach => Schema.isExpressible_iff.2 ?_
    exact Schema.expressNode_of_not_isDefective (hreach.wellFormed (Schema.wellFormed_of_check hcheck)).here
  · exact (hinside.isExpressible ⟨text, htext⟩).requiresUndeclared
  · obtain ⟨⟨location, node⟩, hfirst⟩ : ∃ first, schema.nodes.find? (·.2.isDefective) = some first := by
      rw [← Option.ne_none_iff_exists']
      intro hnone
      rw [checkSchema_eq_first hlimit, hnone] at hcheck
      cases hcheck
    have hinside := Value.hasSchema_of_mem_nodes (List.mem_of_find?_eq_some hfirst)
    have hnode := hinside.isExpressible ⟨text, htext⟩
    obtain ⟨below, e', hbelow, he', hreports⟩ := check_of_first_defect hlimit hfirst path
    rw [hcheck] at he'
    cases he'
    exact ⟨location, node, below, hinside, hnode.requiresUndeclared (by simpa using List.find?_some hfirst), hbelow,
      hreports.required hnode.isSchema⟩

/-- The second place of a pair requires a name without declaring any property. -/
def pairWithWidth : Value := .ofFields [("type", .str "array"), ("items", .list [.ofFields [("type", .str "any")],
  .ofFields [("type", .str "object"), ("properties", .ofFields []), ("required", .tuple [.str "width"])]])]

/-- The pair is written as a type, and fails the check for just that name. -/
theorem pair_with_undeclared_width :
    typeExpression pairWithWidth = .ok "[any, \x7b\x7d]" ∧
    ∃ location node below e, pairWithWidth.HasSchema location node ∧ node.RequiresUndeclared ∧
      Step.path location = .ok below ∧ checkSchema pairWithWidth "/box" = .error e ∧
      e.message = shownPath ("/box" ++ below) ++ ": \x27required\x27 must list declared properties" := by
  refine ⟨rfl, ?_⟩
  have hlimit : pairWithWidth.WithinDigitLimit := by
    simp [pairWithWidth, Value.WithinDigitLimit, Value.IsWritableNumber, Value.ofFields]
  obtain ⟨-, location, node, below, hinside, hnode, hbelow, hmessage⟩ :=
    (typeExpression_agrees_with_check _ hlimit).2.2.2.2 _ "/box" _ rfl rfl
  exact ⟨location, node, below, _, hinside, hnode, hbelow, rfl, hmessage⟩

end DataShape
