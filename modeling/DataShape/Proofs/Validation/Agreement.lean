import DataShape.Proofs.Schema.Check
import DataShape.Proofs.Validation.Conformance
import DataShape.Proofs.Validation.Structure
import DataShape.Proofs.Validation.Totality
import DataShape.Proofs.Value.Keys

/-! The check of a schema and validation agree on which schemas are defective. Where the check fails, a value
can be given that leads validation to the node which the check reports, by the same steps. -/

namespace DataShape

namespace Schema

/-- Each declared property is the one that is found under its key. -/
def FindsProperties : Schema → Prop
  | .object properties _ => ∀ property ∈ properties, propertyFor? properties property.key = some property
  | _ => True

theorem propertyFor?_key {declared : Value} {entries : Entries} (hentries : declared.entries? = some entries)
    (hkeys : declared.HasProperKeys) {property : Property Schema}
    (hproperty : property ∈ entries.map Property.ofEntry) :
    propertyFor? (entries.map Property.ofEntry) property.key = some property := by
  obtain ⟨entry, hentry, rfl⟩ := List.mem_map.1 hproperty
  have hself := Value.sameKey_self (hkeys.hashable entries hentries entry.1 (List.mem_map_of_mem hentry))
  have hfound := Entries.find?_eq_some_of_distinct (hkeys.distinct entries hentries) hentry hself
  show propertyFor? _ entry.1 = _
  rw [propertyFor?_map_ofEntry, hfound]
  rfl

theorem findsProperties_ofValue {v : Value} (h : v.Everywhere Value.HasProperKeys) :
    (ofValue v).Everywhere FindsProperties := by
  refine everywhere_of_nodes (fun _ _ => trivial) (fun node s hnode hmodified hof => ?_) h
  obtain ⟨hnil, -⟩ | ⟨_, _, -, -, rfl⟩ | ⟨_, -, -, rfl⟩ | ⟨_, -, rfl⟩ | ⟨declared, entries, hdeclared, hentries, rfl⟩ :=
    ofNode?_cases hof hmodified
  · cases s with
    | object properties required =>
      rw [children, List.map_eq_nil_iff] at hnil
      subst hnil
      exact fun property hproperty => absurd hproperty List.not_mem_nil
    | _ => trivial
  · trivial
  · trivial
  · trivial
  · exact fun property hproperty => propertyFor?_key hentries (hnode.field hdeclared).here hproperty

/-- The node that the check reports is a node of the schema as it is given. -/
theorem FirstDefect.exists_hasNode {s t : Schema} {location : List Step} (h : s.FirstDefect location t) {v : Value}
    (hv : ofValue v = s) : ∃ node, v.HasNode location node ∧ ofValue node = t := by
  induction h generalizing v with
  | here _ => exact ⟨v, .root v, hv⟩
  | @child s child t step before after location _ hchildren _ _ ih =>
    subst hv
    have hmem : (step, child) ∈ (ofValue v).children := by rw [hchildren]; simp
    obtain ⟨node, x, hunwrap, hstep, hx⟩ := exists_holds_of_mem_children hmem
    obtain ⟨found, hfound, ht⟩ := ih hx
    exact ⟨found, .child hunwrap hstep hfound, ht⟩

theorem issues_null_succeeds (s : Schema) : ∃ issues, s.issues .null = .ok issues := by
  have hparts : s.parts .null = [] := by cases s <;> rfl
  obtain ⟨own, hown⟩ : ∃ own, s.ownCauses .null = .ok own := by cases s <;> exact ⟨_, rfl⟩
  rw [issues_eq, hparts, hown]
  exact ⟨_, rfl⟩

theorem issues_of_part {s : Schema} {v : Value} (hown : ∃ own, s.ownCauses v = .ok own)
    (hparts : ∀ part ∈ s.parts v, ∃ issues, part.issues = .ok issues) {part : Part} (hpart : part ∈ s.parts v)
    {found : List Issue} {step : String} (hfound : part.schema.issues part.value = .ok found)
    (hstep : part.step.text = .ok step) :
    ∃ issues, s.issues v = .ok issues ∧ ∀ issue ∈ found, issue.under ("/" ++ step) ∈ issues := by
  obtain ⟨own, hown⟩ := hown
  obtain ⟨below, hbelow⟩ := mapM_succeeds.2 hparts
  refine ⟨own.map (·.issue) ++ below.flatten, ?_, fun issue hissue => ?_⟩
  · simp only [issues_eq, partIssues, hown, hbelow, ok_bind, pure_eq_ok]
  · obtain ⟨inner, hinner, hissues⟩ := mem_mapM_of_mem hbelow hpart
    simp only [Part.issues, hstep, hfound, ok_bind, pure_eq_ok, Except.ok.injEq] at hissues
    subst hissues
    exact List.mem_append_right _ (List.mem_flatten.2 ⟨_, hinner, List.mem_map_of_mem hissue⟩)

/-- A value can be given that has a value as the part which is checked under a child of a node, and otherwise
only parts that are `null`. -/
def LeadsDown (s child : Schema) (step : Step) (x : Value) : Prop :=
  ∃ v part text, part ∈ s.parts v ∧ part.origin = step ∧ part.schema = child ∧ part.value = x ∧
    part.step.text = .ok text ∧ (∃ own, s.ownCauses v = .ok own) ∧
    ∀ other ∈ s.parts v, other = part ∨ other.value = .null ∧ ∃ text, other.step.text = .ok text

theorem leadsDown_array (items : Schema) (x : Value) : LeadsDown (.array items) items .items x := by
  refine ⟨.list [x], ⟨.items, .index 0, items, x⟩, _, ?_, rfl, rfl, rfl, rfl, ⟨_, rfl⟩, ?_⟩
  · exact mem_elementParts.2 ⟨0, x, rfl, rfl⟩
  · exact fun other hother => .inl (List.mem_singleton.1 hother)

theorem leadsDown_record (values : Schema) (x : Value) : LeadsDown (.record values) values .values x := by
  refine ⟨.dict [(.str "", x)], ⟨.values, .key (.str ""), values, x⟩, _, ?_, rfl, rfl, rfl, rfl, ⟨_, rfl⟩, ?_⟩
  · exact mem_entryParts.2 ⟨_, List.mem_singleton_self _, rfl⟩
  · exact fun other hother => .inl (List.mem_singleton.1 hother)

theorem leadsDown_tuple {items : List Schema} {item : Schema} {i : Nat} (hitem : items[i]? = some item) (x : Value) :
    LeadsDown (.tuple items) item (.index i) x := by
  have hi : i < items.length := (List.getElem?_eq_some_iff.1 hitem).1
  have hlength : ((List.replicate items.length Value.null).set i x).length = items.length := by simp
  have hparts : (tuple items).parts (.list ((List.replicate items.length .null).set i x)) =
      placeParts items ((List.replicate items.length .null).set i x) 0 := if_pos hlength
  refine ⟨.list ((List.replicate items.length .null).set i x), ⟨.index i, .index i, item, x⟩, _, ?_, rfl, rfl,
    rfl, rfl, ⟨_, rfl⟩, ?_⟩
  · rw [hparts, mem_placeParts]
    exact ⟨i, item, x, hitem, by simp [hi], rfl⟩
  · rw [hparts]
    intro other hother
    obtain ⟨j, found, y, hfound, hy, rfl⟩ := mem_placeParts.1 hother
    rw [List.getElem?_set, List.length_replicate] at hy
    by_cases hij : i = j
    · subst hij
      rw [if_pos rfl, if_pos hi] at hy
      rw [hitem] at hfound
      cases hy
      cases hfound
      exact .inl rfl
    · rw [if_neg hij, List.getElem?_replicate] at hy
      split at hy
      · exact .inr ⟨(Option.some.inj hy).symm, _, rfl⟩
      · cases hy

theorem leadsDown_object {properties : List (Property Schema)} {required : Value} {property : Property Schema}
    (hs : (object properties required).isDefective = false) (hkey : property.key.WithinDigitLimit)
    (hfound : propertyFor? properties property.key = some property) (x : Value) :
    LeadsDown (.object properties required) property.schema (.key property.key) x := by
  obtain ⟨names, hnames, -⟩ := exists_names_of_isDefective hs
  obtain ⟨text, htext⟩ := Value.plain_succeeds hkey
  have hparts : (object properties required).parts (.dict [(property.key, x)]) =
      [⟨.key property.key, .key property.key, property.schema, x⟩] := by
    simp [parts, Value.entries?, hnames, propertyParts, hfound]
  refine ⟨.dict [(property.key, x)], ⟨.key property.key, .key property.key, property.schema, x⟩, text, ?_, rfl, rfl,
    rfl, htext, ?_, ?_⟩
  · rw [hparts]
    exact List.mem_singleton_self _
  · simp only [ownCauses, Value.entries?, hnames]
    refine keyCauses_succeeds properties names fun entry hentry => ?_
    rwa [List.mem_singleton.1 hentry]
  · rw [hparts]
    exact fun other hother => .inl (List.mem_singleton.1 hother)

theorem leadsDown_of_mem_children {s child : Schema} {step : Step} (hs : s.isDefective = false)
    (hdata : ∀ y ∈ s.data, y.WithinDigitLimit) (hfinds : s.FindsProperties)
    (hchild : (step, child) ∈ s.children) (x : Value) : LeadsDown s child step x := by
  cases s <;> simp only [children, List.not_mem_nil, List.mem_singleton] at hchild
  case array items =>
    cases hchild
    exact leadsDown_array child x
  case tuple items =>
    obtain ⟨⟨item, i⟩, hitem, heq⟩ := List.mem_map.1 hchild
    cases heq
    exact leadsDown_tuple (List.mk_mem_zipIdx_iff_getElem?.1 hitem) x
  case record values =>
    cases hchild
    exact leadsDown_record child x
  case object properties required =>
    obtain ⟨property, hproperty, heq⟩ := List.mem_map.1 hchild
    cases heq
    have hkey := hdata _ (List.mem_cons_of_mem _ (List.mem_map_of_mem hproperty))
    exact leadsDown_object hs hkey (hfinds property hproperty) x

/-- To every node that the check reports, some value leads validation. All issues that the node has with a
value that stands there are reported, at the path of the steps to it. -/
theorem exists_value_reaching {s t : Schema} {location : List Step} (h : s.FirstDefect location t)
    (hdata : s.Everywhere fun t => ∀ y ∈ t.data, y.WithinDigitLimit) (hfinds : s.Everywhere FindsProperties)
    {x : Value} {found : List Issue} (hfound : t.issues x = .ok found) :
    ∃ v steps place issues, s.Reaches v location steps t x ∧ Step.path steps = .ok place ∧
      s.issues v = .ok issues ∧ ∀ issue ∈ found, issue.under place ∈ issues := by
  induction h with
  | here =>
    refine ⟨x, [], "", found, .here _ _, rfl, hfound, fun issue hissue => ?_⟩
    simpa [Issue.under] using hissue
  | @child s child t step before after location hs hchildren _ _ ih =>
    have hmem : (step, child) ∈ s.children := by rw [hchildren]; simp
    obtain ⟨w, steps, place, issues, hreaches, hplace, hissues, hall⟩ :=
      ih (hdata.child hmem) (hfinds.child hmem) hfound
    obtain ⟨v, part, text, hpart, horigin, hschema, hvalue, htext, hown, hothers⟩ :=
      leadsDown_of_mem_children hs hdata.here hfinds.here hmem w
    subst horigin hschema hvalue
    have hparts : ∀ other ∈ s.parts v, ∃ issues, other.issues = .ok issues := by
      intro other hother
      rcases hothers other hother with rfl | ⟨hnull, text, htext⟩
      · exact ⟨_, by simp only [Part.issues, htext, hissues, ok_bind]; rfl⟩
      · obtain ⟨issues, hissues⟩ := issues_null_succeeds other.schema
        exact ⟨_, by simp only [Part.issues, htext, hnull, hissues, ok_bind]; rfl⟩
    obtain ⟨whole, hwhole, hin⟩ := issues_of_part hown hparts hpart hissues htext
    refine ⟨v, part.step :: steps, "/" ++ text ++ place, whole, .part hpart hreaches, ?_, hwhole, ?_⟩
    · simp only [Step.path, htext, hplace, ok_bind]
      rfl
    · intro issue hissue
      rw [← Issue.under_under]
      exact hin _ (hall issue hissue)

end Schema

/-- The check of a schema at a path reports a node of it at a place: the first that is defective. -/
structure Reported (schema : Value) (path place : String) (location : List Step) (node : Value) : Prop where
  hasNode : schema.HasNode location node
  first : (Schema.ofValue schema).FirstDefect location (Schema.ofValue node)
  place_eq : ∃ below, Step.path location = .ok below ∧ place = path ++ below

/-- For some value, validation comes by the steps to a node to some part of the value, and reports there that
the schema is not usable. -/
def Exposed (schema : Value) (location : List Step) (node : Value) (message : String) : Prop :=
  ∃ v steps place w issues, (Schema.ofValue schema).Reaches v location steps (Schema.ofValue node) w ∧
    Step.path steps = .ok place ∧ validate schema v "" = .ok issues ∧ ⟨.invalidSchema, message, place⟩ ∈ issues

theorem exposed_of_cause {schema node : Value} {location : List Step} (w : Value) (cause : Cause)
    (hlimit : schema.WithinDigitLimit) (hkeys : schema.Everywhere Value.HasProperKeys)
    (hfirst : (Schema.ofValue schema).FirstDefect location (Schema.ofValue node))
    (hissues : (Schema.ofValue node).issues w = .ok [cause.issue]) (hkind : cause.kind = .invalidSchema) :
    Exposed schema location node cause.message := by
  obtain ⟨v, steps, place, issues, hreaches, hplace, hvalidate, hall⟩ :=
    Schema.exists_value_reaching hfirst (Schema.everywhere_data trivial hlimit)
      (Schema.findsProperties_ofValue hkeys) hissues
  refine ⟨v, steps, place, w, issues.map (·.under ""), hreaches, hplace, ?_, ?_⟩
  · rw [validate, hvalidate]
    rfl
  · refine List.mem_map.2 ⟨_, hall _ (List.mem_singleton_self _), ?_⟩
    simp [Issue.under, Cause.issue, hkind]

theorem exists_reported {schema : Value} {path : String} {d : Defect} (hlimit : schema.WithinDigitLimit)
    (h : checkSchema schema path = .error (.defect d)) :
    ∃ location node below, schema.HasNode location node ∧
      (Schema.ofValue schema).FirstDefect location (Schema.ofValue node) ∧ Step.path location = .ok below ∧
      (Schema.ofValue node).checkNode (path ++ below) = .error (.defect d) := by
  obtain ⟨location, t, below, hfirst, hbelow, hcheck⟩ :=
    Schema.firstDefect_of_check (Schema.everywhere_data trivial hlimit) h
  obtain ⟨node, hnode, rfl⟩ := hfirst.exists_hasNode rfl
  exact ⟨location, node, below, hnode, hfirst, hbelow, hcheck⟩

/-- An object that requires a name which it does not declare has something to say of every value. -/
theorem issues_ne_nil_of_undeclared {properties : List (Property Schema)} {required v : Value}
    {names : List String} {issues : List Issue} (hnames : Schema.requiredNames? required = some names)
    (hundeclared : Schema.declares properties names = false)
    (h : (Schema.object properties required).issues v = .ok issues) : issues ≠ [] := by
  rintro rfl
  simp only [Schema.issues_eq, bind_eq_ok, pure_eq_ok, Except.ok.injEq, List.append_eq_nil_iff,
    List.map_eq_nil_iff] at h
  obtain ⟨own, hown, _, _, rfl, _⟩ := h
  rw [Schema.ownCauses] at hown
  split at hown
  · exact Schema.mistyped_ne_nil hown
  · next entries hentries =>
    rw [hnames] at hown
    obtain ⟨hhas, hdeclared⟩ := Schema.keyCauses_eq_nil.1 hown
    obtain ⟨name, hname, hnone⟩ : ∃ name ∈ names, ∀ property ∈ properties,
        property.key.sameKey (.str name) = false := by
      simpa [Schema.declares] using hundeclared
    obtain ⟨x, hx⟩ := Option.isSome_iff_exists.1 (hhas name hname)
    obtain ⟨entry, hentry, -⟩ := Option.map_eq_some_iff.1 hx
    have hkey : entry.1 = .str name := Value.sameKey_str_iff.1 (by simpa using List.find?_some hentry)
    obtain ⟨property, hproperty⟩ := hdeclared entry (List.mem_of_find?_eq_some hentry)
    have hsame := List.find?_some hproperty
    rw [hkey, hnone property (List.mem_of_find?_eq_some hproperty)] at hsame
    cases hsame

/-- A schema that passes the check has no issues that say it is defective. If the check reports a node, some
value makes validation report it too, or validation has issues with every value there. Given are mappings that can be
built entry by entry. -/
theorem check_agrees_with_validation (schema : Value) (path : String) (hlimit : schema.WithinDigitLimit) :
    (checkSchema schema path = .ok () → ∀ v front issues, validate schema v front = .ok issues →
      ∀ issue ∈ issues, ¬ SaysDefective issue.message) ∧
    (∀ place shown, checkSchema schema path = .error (.defect (.invalidNode place shown)) →
      ∃ location node, Reported schema path place location node ∧ node.literal = .ok shown ∧
        (schema.Everywhere Value.HasProperKeys → Exposed schema location node "Invalid schema")) ∧
    (∀ place, checkSchema schema path = .error (.defect (.undeclaredRequired place)) →
      ∃ location node properties required, Reported schema path place location node ∧
        Schema.ofValue node = .object properties required ∧
        (Schema.requiredNames? required = none → ∃ shown, required.literal = .ok shown ∧
          (schema.Everywhere Value.HasProperKeys →
            Exposed schema location node ("Invalid required option " ++ shown))) ∧
        ((Schema.requiredNames? required).isSome → ∀ v front issues, validate node v front = .ok issues →
          issues ≠ [])) := by
  have hdata := Schema.everywhere_data (P := Value.IsWritableNumber) trivial hlimit
  refine ⟨fun hcheck v front issues hvalidate issue hissue => ?_, fun place shown hcheck => ?_,
    fun place hcheck => ?_⟩
  · rw [validate, bind_eq_ok] at hvalidate
    obtain ⟨found, hfound, hissues⟩ := hvalidate
    cases hissues
    obtain ⟨inner, hinner, rfl⟩ := List.mem_map.1 hissue
    rw [Issue.under_message]
    exact (Schema.wellFormed_of_check hcheck).not_saysDefective hfound hinner
  · obtain ⟨location, node, below, hnode, hfirst, hbelow, hcheckNode⟩ := exists_reported hlimit hcheck
    obtain ⟨w, hinvalid, rfl, hshown⟩ := Schema.checkNode_eq_invalidNode (hfirst.everywhere hdata).here hcheckNode
    obtain rfl := Schema.eq_of_ofValue_eq_invalid hinvalid
    refine ⟨location, w, ⟨hnode, hfirst, below, hbelow, rfl⟩, hshown, fun hkeys => ?_⟩
    refine exposed_of_cause .null .notASchema hlimit hkeys hfirst ?_ rfl
    rw [hinvalid]
    rfl
  · obtain ⟨location, node, below, hnode, hfirst, hbelow, hcheckNode⟩ := exists_reported hlimit hcheck
    have hnodeData := (hfirst.everywhere hdata).here
    obtain ⟨properties, required, hobject, rfl⟩ := Schema.checkNode_eq_undeclaredRequired hnodeData hcheckNode
    refine ⟨location, node, properties, required, ⟨hnode, hfirst, below, hbelow, rfl⟩, hobject,
      fun hnames => ?_, fun hnames v front issues hvalidate => ?_⟩
    · obtain ⟨shown, hshown⟩ := Value.literal_succeeds (hnodeData required (by simp [hobject, Schema.data]))
      refine ⟨shown, hshown, fun hkeys => ?_⟩
      refine exposed_of_cause (.dict []) (.badRequired shown) hlimit hkeys hfirst ?_ rfl
      simp [hobject, Schema.issues_eq, Schema.ownCauses, Schema.parts, Value.entries?, hnames, hshown]
    · obtain ⟨names, hnames⟩ := Option.isSome_iff_exists.1 hnames
      have hundeclared : Schema.declares properties names = false := by
        have hdefective := hfirst.isDefective
        simpa [hobject, Schema.isDefective, hnames] using hdefective
      rw [validate, bind_eq_ok, hobject] at hvalidate
      obtain ⟨found, hfound, hissues⟩ := hvalidate
      cases hissues
      rw [ne_eq, List.map_eq_nil_iff]
      exact issues_ne_nil_of_undeclared hnames hundeclared hfound

/-- An object that declares a property under a key which is not a number: a list without a schema for its items. -/
def unnumberedList : Value :=
  .ofFields [("type", .str "object"), ("properties", .dict
    [(.str "rows", .ofFields [("type", .str "any")]),
      (.float (.nan 1), .ofFields [("type", .str "array"), ("items", .null)])])]

/-- A value leads to the items of the list, since the key is found that is the same object. -/
theorem exposed_missing_items :
    ∃ location node, Reported unnumberedList "" "/nan/items" location node ∧
      Exposed unnumberedList location node "Invalid schema" := by
  have hstr (s : String) : (Value.str s).HasProperKeys := Value.hasProperKeys_of_not_mapping rfl
  have hfloat (x : Binary64) : (Value.float x).HasProperKeys := Value.hasProperKeys_of_not_mapping rfl
  have hnull : Value.null.HasProperKeys := Value.hasProperKeys_of_not_mapping rfl
  have hdict {entries : Entries} (hdistinct : entries.keys.Pairwise fun a b => a.sameKey b = false)
      (hhashable : entries.keys.all fun key => key.unhashable?.isNone) : (Value.dict entries).HasProperKeys :=
    Value.hasProperKeys_dict hdistinct fun key hkey => Option.isNone_iff_eq_none.1 (List.all_eq_true.1 hhashable key hkey)
  obtain ⟨location, node, hreported, -, hexposed⟩ := (check_agrees_with_validation unnumberedList ""
    (by simp [unnumberedList, Value.WithinDigitLimit, Value.IsWritableNumber, Value.ofFields])).2.1 "/nan/items" "None" rfl
  refine ⟨location, node, hreported, hexposed ?_⟩
  simp only [unnumberedList, Value.ofFields, List.map_cons, List.map_nil, Value.everywhere_dict, Value.everywhere_str,
    Value.everywhere_float, Value.everywhere_null, List.forall_mem_cons, hstr, hfloat, hnull, List.not_mem_nil,
    false_implies, implies_true, and_true, true_and]
  refine ⟨hdict ?_ ?_, hdict ?_ ?_, hdict ?_ ?_, hdict ?_ ?_⟩ <;> decide

end DataShape
