import DataShape.Proofs.Schema.Made
import DataShape.Proofs.Validation.Conformance

/-! Schemas put together by builders, called one inside the other. Every such call returns, and what it returns is a
schema as builders make it, which holds the options as they are given. -/

namespace DataShape

/-- Calls of builders, one inside the other. Where a property is given more than once, the last one counts. -/
inductive Construction where
  | any
  | boolean
  | null
  | undefined
  | number (options : NumberRule → Value)
  | string (options : TextRule → Value)
  | array (items : Construction)
  | tuple (items : List Construction)
  | record (values : Construction)
  | object (properties : List (String × Construction))
  | optional (item : Construction)
  | readonly (item : Construction)

namespace Construction

mutual

/-- What the builders return. -/
def build : Construction → Outcome Value
  | .any => return Builder.any
  | .boolean => return Builder.boolean
  | .null => return Builder.null
  | .undefined => return Builder.undefined
  | .number options => return Builder.number options
  | .string options => return Builder.string options
  | .array items => do return Builder.array (← items.build)
  | .tuple items => do return Builder.tuple (← buildAll items)
  | .record values => do return Builder.record (← values.build)
  | .object properties => do Builder.object (.ofPairs (← buildProperties properties))
  | .optional item => do Builder.optional (← item.build)
  | .readonly item => do Builder.readonly (← item.build)

def buildAll : List Construction → Outcome (List Value)
  | [] => return []
  | c :: cs => do
    let first ← c.build
    return first :: (← buildAll cs)

def buildProperties : List (String × Construction) → Outcome (List (Value × Value))
  | [] => return []
  | (name, c) :: properties => do
    let first ← c.build
    return (.str name, first) :: (← buildProperties properties)

end

def parts : Construction → List Construction
  | .array c | .record c | .optional c | .readonly c => [c]
  | .tuple cs => cs
  | .object properties => properties.map (·.2)
  | _ => []

theorem sizeOf_lt_of_mem_parts {c part : Construction} (h : part ∈ c.parts) : sizeOf part < sizeOf c := by
  cases c <;> simp only [parts, List.not_mem_nil, List.mem_singleton] at h
  case array | record | optional | readonly =>
    subst h
    simp
  case tuple cs =>
    have := List.sizeOf_lt_of_mem h
    simp only [tuple.sizeOf_spec]
    omega
  case object properties =>
    obtain ⟨⟨name, c⟩, hproperty, rfl⟩ := List.mem_map.1 h
    have := List.sizeOf_lt_of_mem hproperty
    simp only [object.sizeOf_spec, Prod.mk.sizeOf_spec] at this ⊢
    omega

theorem induction_on_parts {P : Construction → Prop} (step : ∀ c, (∀ part ∈ c.parts, P part) → P c)
    (c : Construction) : P c :=
  step c fun part _ => induction_on_parts step part
termination_by sizeOf c
decreasing_by exact sizeOf_lt_of_mem_parts ‹_›

/-- The constraints that a call is given are usable: numbers, and patterns that compile. -/
def HasUsableOptions : Construction → Prop
  | .number options => ∀ rule, options rule = .null ∨ (options rule).isNumber = true
  | .string options => ∀ rule : TextRule, rule.Usable (options rule)
  | _ => True

inductive Everywhere (P : Construction → Prop) : Construction → Prop
  | intro {c : Construction} (here : P c) (inside : ∀ part ∈ c.parts, Everywhere P part) : Everywhere P c

theorem Everywhere.here {P : Construction → Prop} {c : Construction} (h : c.Everywhere P) : P c := by
  cases h; assumption

theorem Everywhere.part {P : Construction → Prop} {c part : Construction} (h : c.Everywhere P)
    (hpart : part ∈ c.parts) : part.Everywhere P := by
  cases h with
  | intro _ inside => exact inside part hpart

theorem buildAll_eq_mapM (cs : List Construction) : buildAll cs = cs.mapM build := by
  induction cs with
  | nil => rfl
  | cons c cs ih => rw [buildAll, ih, List.mapM_cons]

theorem buildProperties_eq_mapM (properties : List (String × Construction)) :
    buildProperties properties = properties.mapM fun property => do return (.str property.1, ← property.2.build) := by
  induction properties with
  | nil => rfl
  | cons property properties ih =>
    obtain ⟨name, c⟩ := property
    rw [buildProperties, ih, List.mapM_cons]
    simp only [bind_assoc, pure_bind]

end Construction

namespace Builder

theorem isArrayOf_array {items : Value} (h : items.elements? = none) : (array items).IsArrayOf items := by
  refine ⟨?_, rfl⟩
  have hfield : (array items).fieldOrNull "items" = items := rfl
  have htag : (array items).tag? = some "array" := rfl
  simp [Variant.holds, Variant.fits, Variant.tag, Variant.name, htag, hfield, Value.isSequence, h]

theorem isTupleOf_tuple (items : List Value) : (tuple items).IsTupleOf items := ⟨rfl, rfl⟩

theorem isRecordOf_record {values : Value} (h : values.isNull = false) : (record values).IsRecordOf values := by
  refine ⟨?_, rfl⟩
  have hfield : (record values).fieldOrNull "additionalProperties" = values := rfl
  have htag : (record values).tag? = some "object" := rfl
  simp [Variant.holds, Variant.fits, Variant.tag, htag, hfield, h]

theorem lookup?_givenOptions {α : Type} [DecidableEq α] {key : α → String} (hkey : Function.Injective key)
    (options : α → Value) (rules : List α) (rule : α) :
    Entries.lookup? ((givenOptions (rules.map fun rule => (key rule, options rule))).map fun field =>
        (.str field.1, field.2)) (.str (key rule)) =
      if rule ∈ rules ∧ (options rule).isNull = false then some (options rule) else none := by
  induction rules with
  | nil => rfl
  | cons first rest ih =>
    by_cases hrule : first = rule
    · subst hrule
      cases hnull : (options first).isNull with
      | true => simpa [givenOptions, hnull] using ih
      | false => simp [givenOptions, hnull, Entries.lookup?_cons, Value.sameKey_str_iff]
    · have hne : (Value.str (key first)).sameKey (.str (key rule)) = false := by
        rw [Bool.eq_false_iff, Ne, Value.sameKey_str_iff, Value.str.injEq]
        exact fun h => hrule (hkey h)
      have hmem : rule ∈ first :: rest ↔ rule ∈ rest := by
        rw [List.mem_cons]
        exact or_iff_right fun h => hrule h.symm
      simp only [hmem, ← ih]
      cases hnull : (options first).isNull <;> simp [givenOptions, hnull, Entries.lookup?_cons, hne]

theorem fieldOrNull_tagged {α : Type} [DecidableEq α] {key : α → String} (hkey : Function.Injective key)
    (hother : ∀ rule, key rule ≠ "type") (tag : String) (options : α → Value) {rules : List α} {rule : α}
    (hrule : rule ∈ rules) :
    (tagged tag (givenOptions (rules.map fun rule => (key rule, options rule)))).fieldOrNull (key rule) =
      options rule := by
  have hne : (Value.str "type").sameKey (.str (key rule)) = false := by
    rw [Bool.eq_false_iff, Ne, Value.sameKey_str_iff, Value.str.injEq]
    exact fun h => hother rule h.symm
  have hlookup := lookup?_givenOptions hkey options rules rule
  simp only [Value.fieldOrNull, Value.field?, tagged, Value.ofFields, Value.entries?, Option.bind_some, List.map_cons,
    Entries.lookup?_cons, hne, Bool.false_eq_true, if_false, hlookup, hrule, true_and]
  cases hoption : options rule <;> rfl

theorem fieldOrNull_number (options : NumberRule → Value) (rule : NumberRule) :
    (number options).fieldOrNull rule.key = options rule :=
  fieldOrNull_tagged (fun _ _ => NumberRule.key_injective) NumberRule.key_ne_type "number" options rule.mem_all

theorem fieldOrNull_string (options : TextRule → Value) (rule : TextRule) :
    (string options).fieldOrNull rule.key = options rule :=
  fieldOrNull_tagged (fun _ _ => TextRule.key_injective) TextRule.key_ne_type "string" options rule.mem_all

theorem holds_objectOf (properties : Entries) : Variant.object.holds (objectOf properties) = true := by
  simp only [objectOf]
  split <;> rfl

theorem requiresUnmarked_objectOf (properties : List (String × Value)) :
    (objectOf (properties.map fun property => (.str property.1, property.2))).RequiresUnmarked properties := by
  have hrequired : ((properties.map fun property => (Value.str property.1, property.2)).filter
      fun entry => !entry.2.isOptional).map (·.1) = (Value.unmarkedNames properties).map .str := by
    simp [Value.unmarkedNames, List.filter_map, Function.comp_def]
  rw [objectOf, hrequired, List.isEmpty_map]
  cases hempty : (Value.unmarkedNames properties).isEmpty <;> refine ⟨rfl, ?_⟩ <;> rw [hempty] <;> rfl

/-- A flag is set on a wrapper without a further one, and on a new wrapper around anything else. The schema that is
read stays. -/
theorem exists_mark {item : Value} (h : item.Made) {flag : String} (htype : flag ≠ "type") (hfield : flag ≠ "item") :
    ∃ s, mark item flag = .ok s ∧ s.Made ∧ Schema.ofValue s = Schema.ofValue item := by
  obtain ⟨entries, hentries⟩ := h.exists_entries
  rw [mark, hentries]
  cases hmodified : item.isModified with
  | true =>
    obtain ⟨inner, hinner, hbare, hmade⟩ := h.exists_item hmodified
    -- The flag is set on the wrapper that is there, which stays around the same schema.
    have hput {name : String} (hname : flag ≠ name) :
        (Value.dict (Entries.put entries (.str flag) (.bool true))).field? name = item.field? name := by
      rw [Value.field?, Value.field?, hentries]
      simp only [Value.entries?, Option.bind_some, Entries.lookup?_put, if_neg hname]
    have hset : (Value.dict (Entries.put entries (.str flag) (.bool true))).isModified = true := by
      rw [Value.isModified, Value.tag?, hput htype]
      exact hmodified
    have hwrapped : (Value.dict (Entries.put entries (.str flag) (.bool true))).Made :=
      .wrapper hset ((hput hfield).trans hinner) hbare hmade
    refine ⟨_, rfl, hwrapped, ?_⟩
    rw [Schema.ofValue_wrapper (hwrapped.isWrapperOf hset ((hput hfield).trans hinner)),
      Schema.ofValue_wrapper (h.isWrapperOf hmodified hinner)]
  | false =>
    have hwrapped : (tagged "modified" [("item", item), (flag, .bool true)]).Made := .wrapper rfl rfl hmodified h
    exact ⟨_, rfl, hwrapped, Schema.ofValue_wrapper (hwrapped.isWrapperOf rfl rfl)⟩

theorem exists_optional {item : Value} (h : item.Made) :
    ∃ s, optional item = .ok s ∧ s.Made ∧ Schema.ofValue s = Schema.ofValue item := by
  rw [optional]
  split
  · exact ⟨item, rfl, h, rfl⟩
  · exact exists_mark h (by decide) (by decide)

theorem exists_readonly {item : Value} (h : item.Made) :
    ∃ s, readonly item = .ok s ∧ s.Made ∧ Schema.ofValue s = Schema.ofValue item := by
  rw [readonly]
  split
  · exact ⟨item, rfl, h, rfl⟩
  · exact exists_mark h (by decide) (by decide)

end Builder

namespace Construction

/-- A schema that a call of builders makes. -/
structure Makes (c : Construction) (s : Value) : Prop where
  build_eq : c.build = .ok s
  made : s.Made
  usable : c.Everywhere HasUsableOptions → (Schema.ofValue s).Everywhere Schema.OptionsUsable

theorem Makes.of_build {c : Construction} (h : ∃ s, c.Makes s) {s : Value} (hs : c.build = .ok s) : c.Makes s := by
  obtain ⟨t, ht⟩ := h
  rw [ht.build_eq, Except.ok.injEq] at hs
  exact hs ▸ ht

theorem makes_leaf {c : Construction} {s : Value} (variant : Variant) (hbuild : c.build = .ok s)
    (hvariant : variant ∈ Variant.leaves) (hs : variant.holds s = true)
    (husable : c.HasUsableOptions → (Schema.ofValue s).OptionsUsable) : c.Makes s := by
  refine ⟨hbuild, .leaf hvariant hs, fun h => .intro (husable h.here) fun child hchild => ?_⟩
  obtain ⟨t, hof, hchildren, -, -⟩ := Value.exists_schema_of_leaf hvariant hs
  rw [Schema.ofValue_of_ofNode? hof, hchildren] at hchild
  cases hchild

theorem makes_number (options : NumberRule → Value) : (number options).Makes (Builder.number options) := by
  have hs : Variant.number.holds (Builder.number options) = true := rfl
  refine makes_leaf .number rfl (by decide) hs fun husable => ?_
  rw [Schema.ofValue_number hs, funext (Builder.fieldOrNull_number options)]
  exact husable

theorem makes_string (options : TextRule → Value) : (string options).Makes (Builder.string options) := by
  have hs : Variant.string.holds (Builder.string options) = true := rfl
  refine makes_leaf .string rfl (by decide) hs fun husable => ?_
  rw [Schema.ofValue_string hs, funext (Builder.fieldOrNull_string options)]
  exact husable

theorem makes_array {items : Construction} {s : Value} (h : items.Makes s) :
    (array items).Makes (Builder.array s) := by
  obtain ⟨entries, hentries⟩ := h.made.exists_entries
  have hs := Builder.isArrayOf_array (Value.elements?_of_entries? hentries)
  refine ⟨by rw [build, h.build_eq]; rfl, .array hs h.made, fun husable => ?_⟩
  rw [Schema.ofValue_array hs]
  refine .intro trivial fun child hchild => ?_
  rw [List.mem_singleton.1 hchild]
  exact h.usable (husable.part (List.mem_singleton_self items))

theorem makes_record {values : Construction} {s : Value} (h : values.Makes s) :
    (record values).Makes (Builder.record s) := by
  obtain ⟨entries, hentries⟩ := h.made.exists_entries
  have hnull : s.isNull = false := by
    cases s <;> first | rfl | cases hentries
  have hs := Builder.isRecordOf_record hnull
  refine ⟨by rw [build, h.build_eq]; rfl, .record hs h.made, fun husable => ?_⟩
  rw [Schema.ofValue_record hs]
  refine .intro trivial fun child hchild => ?_
  rw [List.mem_singleton.1 hchild]
  exact h.usable (husable.part (List.mem_singleton_self values))

theorem exists_makes_tuple {items : List Construction} (h : ∀ item ∈ items, ∃ s, item.Makes s) :
    ∃ s, (tuple items).Makes s := by
  obtain ⟨built, hbuilt⟩ := mapM_succeeds.2 fun item hitem => (h item hitem).imp fun _ h => h.build_eq
  have hmakes (s : Value) (hs : s ∈ built) : ∃ item ∈ items, item.Makes s := by
    obtain ⟨item, hitem, hbuild⟩ := exists_of_mem_mapM hbuilt hs
    exact ⟨item, hitem, .of_build (h item hitem) hbuild⟩
  have hs := Builder.isTupleOf_tuple built
  refine ⟨Builder.tuple built, by rw [build, buildAll_eq_mapM, hbuilt]; rfl, .tuple hs fun s hs => ?_, fun husable => ?_⟩
  · obtain ⟨item, -, hmake⟩ := hmakes s hs
    exact hmake.made
  · rw [Schema.ofValue_tuple hs]
    refine .intro trivial fun child hchild => ?_
    obtain ⟨⟨t, i⟩, ht, rfl⟩ := List.mem_map.1 hchild
    obtain ⟨s, hs, rfl⟩ := List.mem_map.1 (List.fst_mem_of_mem_zipIdx ht)
    obtain ⟨item, hitem, hmake⟩ := hmakes s hs
    exact hmake.usable (husable.part hitem)

theorem exists_properties {entries : Entries} (hnames : ∀ entry ∈ entries, ∃ name, entry.1 = .str name)
    (hdistinct : entries.keys.Pairwise fun a b => a.sameKey b = false) :
    ∃ properties : List (String × Value), entries = properties.map (fun property => (.str property.1, property.2)) ∧
      (properties.map (·.1)).Nodup := by
  have hnamed : ∀ entry ∈ entries, ∃ property : String × Value, entry = (.str property.1, property.2) := by
    intro entry hentry
    obtain ⟨name, hname⟩ := hnames entry hentry
    exact ⟨(name, entry.2), by rw [← hname]⟩
  obtain ⟨properties, hproperties⟩ := exists_forall₂ hnamed
  have heq : entries = properties.map fun property => (.str property.1, property.2) := by
    clear hnames hdistinct hnamed
    induction hproperties with
    | nil => rfl
    | cons hfirst _ ih => rw [hfirst, ih, List.map_cons]
  refine ⟨properties, heq, ?_⟩
  rw [heq, Entries.keys, List.map_map, List.pairwise_map] at hdistinct
  rw [List.Nodup, List.pairwise_map]
  refine hdistinct.imp fun {a b} hsame hname => ?_
  have htrue : (Value.str a.1).sameKey (.str b.1) = true := Value.sameKey_str_iff.2 (congrArg Value.str hname)
  rw [show (Value.str a.1).sameKey (.str b.1) = false from hsame] at htrue
  cases htrue

/-- An object is made of properties with names that all differ, each made by one of the calls inside. -/
theorem exists_declared {properties : List (String × Construction)}
    (h : ∀ property ∈ properties, ∃ s, property.2.Makes s) :
    ∃ declared : List (String × Value),
      (object properties).build =
        .ok (Builder.objectOf (declared.map fun property => (.str property.1, property.2))) ∧
      (declared.map (·.1)).Nodup ∧ ∀ property ∈ declared, ∃ source ∈ properties, source.2.Makes property.2 := by
  obtain ⟨pairs, hpairs⟩ : ∃ pairs, buildProperties properties = .ok pairs := by
    rw [buildProperties_eq_mapM]
    refine mapM_succeeds.2 fun property hproperty => ?_
    obtain ⟨s, hs⟩ := h property hproperty
    exact ⟨(.str property.1, s), by rw [hs.build_eq]; rfl⟩
  have hentries : ∀ entry ∈ Entries.ofPairs pairs,
      (∃ name, entry.1 = .str name) ∧ ∃ property ∈ properties, property.2.Makes entry.2 := by
    refine Entries.forall_ofPairs (P := fun key => ∃ name, key = .str name)
      (Q := fun s => ∃ property ∈ properties, property.2.Makes s) fun pair hpair => ?_
    rw [buildProperties_eq_mapM] at hpairs
    obtain ⟨property, hproperty, hpair⟩ := exists_of_mem_mapM hpairs hpair
    obtain ⟨s, hs, hpair⟩ := bind_eq_ok.1 hpair
    cases hpair
    exact ⟨⟨property.1, rfl⟩, property, hproperty, .of_build (h property hproperty) hs⟩
  obtain ⟨declared, hdeclared, hnodup⟩ := exists_properties (fun entry hentry => (hentries entry hentry).1)
    (Value.hasDistinctKeys_dict.1 (Entries.hasDistinctKeys_ofPairs pairs))
  rw [hdeclared] at hentries
  refine ⟨declared, ?_, hnodup, fun property hproperty => (hentries _ (List.mem_map_of_mem hproperty)).2⟩
  rw [build, hpairs, ← hdeclared]
  rfl

theorem exists_makes_object {properties : List (String × Construction)}
    (h : ∀ property ∈ properties, ∃ s, property.2.Makes s) : ∃ s, (object properties).Makes s := by
  obtain ⟨declared, hbuild, hnodup, hmakes⟩ := exists_declared h
  have hholds := Builder.holds_objectOf (declared.map fun property => (.str property.1, property.2))
  have hrequires := Builder.requiresUnmarked_objectOf declared
  refine ⟨_, hbuild, .object hholds hrequires hnodup fun property hproperty => ?_, fun husable => ?_⟩
  · obtain ⟨source, -, hmake⟩ := hmakes property hproperty
    exact hmake.made
  · rw [Schema.ofValue_object (hrequires.isObjectOf hholds)]
    refine .intro trivial fun child hchild => ?_
    simp only [Schema.children, List.map_map] at hchild
    obtain ⟨property, hproperty, rfl⟩ := List.mem_map.1 hchild
    obtain ⟨source, hsource, hmake⟩ := hmakes property hproperty
    exact hmake.usable (husable.part (List.mem_map_of_mem hsource))

/-- Marking what a call makes keeps the schema that is read. -/
theorem exists_makes_marked {item c : Construction} {s : Value} (h : item.Makes s) (hpart : item ∈ c.parts)
    {mark : Value → Outcome Value} (hbuild : c.build = do mark (← item.build))
    (hmark : ∃ t, mark s = .ok t ∧ t.Made ∧ Schema.ofValue t = Schema.ofValue s) : ∃ t, c.Makes t := by
  obtain ⟨t, ht, hmade, hsame⟩ := hmark
  refine ⟨t, by rw [hbuild, h.build_eq]; exact ht, hmade, fun husable => ?_⟩
  rw [hsame]
  exact h.usable (husable.part hpart)

/-- Every call of builders returns a schema as builders make it. -/
theorem exists_makes (c : Construction) : ∃ s, c.Makes s := by
  induction c using induction_on_parts with
  | step c ih =>
    cases c with
    | any => exact ⟨_, makes_leaf .any rfl (by decide) rfl fun _ => trivial⟩
    | boolean => exact ⟨_, makes_leaf .boolean rfl (by decide) rfl fun _ => trivial⟩
    | null => exact ⟨_, makes_leaf .null rfl (by decide) rfl fun _ => trivial⟩
    | undefined => exact ⟨_, makes_leaf .undefined rfl (by decide) rfl fun _ => trivial⟩
    | number options => exact ⟨_, makes_number options⟩
    | string options => exact ⟨_, makes_string options⟩
    | array items =>
      obtain ⟨s, hs⟩ := ih items (List.mem_singleton_self items)
      exact ⟨_, makes_array hs⟩
    | record values =>
      obtain ⟨s, hs⟩ := ih values (List.mem_singleton_self values)
      exact ⟨_, makes_record hs⟩
    | tuple items => exact exists_makes_tuple ih
    | object properties => exact exists_makes_object fun property hproperty => ih _ (List.mem_map_of_mem hproperty)
    | optional item =>
      obtain ⟨s, hs⟩ := ih item (List.mem_singleton_self item)
      exact exists_makes_marked hs (List.mem_singleton_self item) rfl (Builder.exists_optional hs.made)
    | readonly item =>
      obtain ⟨s, hs⟩ := ih item (List.mem_singleton_self item)
      exact exists_makes_marked hs (List.mem_singleton_self item) rfl (Builder.exists_readonly hs.made)

end Construction
end DataShape
