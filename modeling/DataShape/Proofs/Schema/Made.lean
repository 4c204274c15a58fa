import DataShape.Proofs.Schema.Nodes
import DataShape.Proofs.Schema.Relaxation
import DataShape.Proofs.Schema.Stored
import DataShape.Schema.Builder
import DataShape.Schema.Expression
import Mathlib.Data.List.Nodup

/-! Schemas as builders make them: no wrapper is around another, and an object requires just the properties that are
not marked as optional. Such a schema passes the check, and is written with the marks of its properties. -/

namespace DataShape

/-- The variants of schemas that hold no other schema. -/
def Variant.leaves : List Variant := [.any, .boolean, .null, .number, .string, .undefined]

namespace Value

/-- The names of the properties that are not marked as optional, in their order. -/
def unmarkedNames (properties : List (String × Value)) : List String :=
  (properties.filter fun property => !property.2.isOptional).map (·.1)

/-- An object that requires just the properties that are not marked as optional, and has no list for that if there are
none. -/
structure RequiresUnmarked (node : Value) (properties : List (String × Value)) : Prop where
  properties_eq : node.field? "properties" = some (.ofFields properties)
  required_eq : node.field? "required" =
    if (unmarkedNames properties).isEmpty then none else some (.list ((unmarkedNames properties).map .str))

/-- A schema as builders make it. -/
inductive Made : Value → Prop
  | leaf {s : Value} {variant : Variant} (hvariant : variant ∈ Variant.leaves) (hs : variant.holds s = true) : Made s
  | array {s items : Value} (hs : s.IsArrayOf items) (hitems : Made items) : Made s
  | tuple {s : Value} {items : List Value} (hs : s.IsTupleOf items) (hitems : ∀ x ∈ items, Made x) : Made s
  | record {s values : Value} (hs : s.IsRecordOf values) (hvalues : Made values) : Made s
  | object {s : Value} {properties : List (String × Value)} (hs : Variant.object.holds s = true)
      (hrequired : s.RequiresUnmarked properties) (hdistinct : (properties.map (·.1)).Nodup)
      (hproperties : ∀ property ∈ properties, Made property.2) : Made s
  | wrapper {s item : Value} (hs : s.isModified = true) (hfield : s.field? "item" = some item)
      (hbare : item.isModified = false) (hitem : Made item) : Made s

/-- A property as it is written, with its marks. -/
def markedText (property : String × Value) (type : String) : String :=
  (if property.2.isReadonly then "readonly " else "") ++ property.1 ++ (if property.2.isOptional then "?" else "")
    ++ ": " ++ type

/-- A schema, and how it is written: every property with the marks of its wrapper. -/
inductive WrittenAs : Value → String → Prop
  | leaf {s : Value} {variant : Variant} (hvariant : variant ∈ Variant.leaves) (hs : variant.holds s = true) :
      WrittenAs s variant.name
  | array {s items : Value} {text : String} (hs : s.IsArrayOf items) (hitems : WrittenAs items text) :
      WrittenAs s ("Array<" ++ text ++ ">")
  | tuple {s : Value} {items : List Value} {texts : List String} (hs : s.IsTupleOf items)
      (hitems : List.Forall₂ WrittenAs items texts) : WrittenAs s ("[" ++ String.intercalate ", " texts ++ "]")
  | record {s values : Value} {text : String} (hs : s.IsRecordOf values) (hvalues : WrittenAs values text) :
      WrittenAs s ("Record<string, " ++ text ++ ">")
  | object {s : Value} {properties : List (String × Value)} {texts : List String}
      (hs : Variant.object.holds s = true) (hfield : s.field? "properties" = some (.ofFields properties))
      (hproperties : List.Forall₂ (fun property text => WrittenAs property.2 text) properties texts) :
      WrittenAs s ("\x7b" ++ String.intercalate "; " (List.zipWith markedText properties texts) ++ "\x7d")
  | wrapper {s item : Value} {text : String} (hs : s.isModified = true) (hfield : s.field? "item" = some item)
      (hitem : WrittenAs item text) : WrittenAs s text

theorem RequiresUnmarked.requiredNames?_eq {node : Value} {properties : List (String × Value)}
    (h : node.RequiresUnmarked properties) :
    Schema.requiredNames? (node.fieldOrNull "required") = some (unmarkedNames properties) := by
  rw [fieldOrNull, h.required_eq]
  split
  · next hempty =>
    rw [List.isEmpty_iff.1 hempty]
    rfl
  · have hnames : (list ((unmarkedNames properties).map str)).elements? =
        some ((unmarkedNames properties).map str) := rfl
    exact keyList?_eq_some.2 hnames

theorem RequiresUnmarked.isObjectOf {node : Value} {properties : List (String × Value)}
    (h : node.RequiresUnmarked properties) (hnode : Variant.object.holds node = true) :
    node.IsObjectOf (properties.map fun property => (.str property.1, property.2)) (unmarkedNames properties) :=
  ⟨hnode, by rw [h.properties_eq]; rfl, h.requiredNames?_eq⟩

theorem exists_schema_of_leaf {s : Value} {variant : Variant} (hvariant : variant ∈ Variant.leaves)
    (hs : variant.holds s = true) :
    ∃ t, Schema.ofNode? s = some t ∧ t.children = [] ∧ t.isDefective = false ∧ t.expression = .ok variant.name := by
  obtain ⟨htag, -⟩ := Variant.holds_iff.1 hs
  simp only [Schema.ofNode?, htag]
  simp only [Variant.leaves, List.mem_cons, List.not_mem_nil, or_false] at hvariant
  rcases hvariant with rfl | rfl | rfl | rfl | rfl | rfl <;> exact ⟨_, rfl, rfl, rfl, rfl⟩

namespace Made

theorem exists_tag {s : Value} (h : s.Made) : ∃ tag, s.tag? = some tag := by
  cases h with
  | leaf _ hs => exact ⟨_, (Variant.holds_iff.1 hs).1⟩
  | array hs | tuple hs | record hs => exact ⟨_, (Variant.holds_iff.1 hs.holds).1⟩
  | object hs => exact ⟨_, (Variant.holds_iff.1 hs).1⟩
  | wrapper hs => exact ⟨"modified", by simpa [isModified] using hs⟩

theorem exists_entries {s : Value} (h : s.Made) : ∃ entries, s.entries? = some entries := by
  obtain ⟨tag, htag⟩ := h.exists_tag
  cases s with
  | dict entries | view entries => exact ⟨entries, rfl⟩
  | _ => cases htag

theorem exists_item {s : Value} (h : s.Made) (hs : s.isModified = true) :
    ∃ item, s.field? "item" = some item ∧ item.isModified = false ∧ item.Made := by
  have hcontra {variant : Variant} (h : variant.holds s = true) (hvariant : variant.tag ≠ "modified") :
      s.isModified = false := by
    rw [isModified, (Variant.holds_iff.1 h).1]
    simpa using hvariant
  cases h with
  | @leaf _ variant _ h => rw [hcontra h (by cases variant <;> decide)] at hs; cases hs
  | array h | tuple h | record h => rw [hcontra h.holds (by decide)] at hs; cases hs
  | object h => rw [hcontra h (by decide)] at hs; cases hs
  | wrapper _ hfield hbare hitem => exact ⟨_, hfield, hbare, hitem⟩

/-- A schema as builders make it passes the check, at whatever path. -/
theorem accepted {s : Value} (h : s.Made) : Schema.Accepted s := by
  induction h with
  | leaf hvariant hs =>
    obtain ⟨t, hof, hchildren, hdefective, -⟩ := exists_schema_of_leaf hvariant hs
    refine Schema.accepted_of_ofNode? hof hdefective fun child hchild => ?_
    rw [hchildren] at hchild
    cases hchild
  | array hs hitems ih =>
    obtain ⟨entries, hentries⟩ := hitems.exists_entries
    exact Schema.accepted_array (Variant.holds_iff.1 hs.holds).1 hs.items_eq (elements?_of_entries? hentries) ih
  | tuple hs _ ih =>
    obtain ⟨items, hfield, helements⟩ := Option.bind_eq_some_iff.1 hs.items_eq
    exact Schema.accepted_tuple (Variant.holds_iff.1 hs.holds).1 hfield helements ih
  | record hs hvalues ih =>
    exact Schema.accepted_record (Variant.holds_iff.1 hs.holds).1 (Schema.filter_values_of_record hs) ih
  | object hs hrequired _ _ ih =>
    refine Schema.accepted_object (Variant.holds_iff.1 hs).1 (Schema.filter_values_of_object hs) hrequired.properties_eq rfl
      hrequired.requiredNames?_eq (Schema.declares_iff.2 fun name hname => ?_) fun entry hentry => ?_
    · obtain ⟨property, hproperty, rfl⟩ := List.mem_map.1 hname
      rw [Entries.keys, List.map_map]
      exact List.mem_map_of_mem (List.mem_of_mem_filter hproperty)
    · obtain ⟨property, hproperty, rfl⟩ := List.mem_map.1 hentry
      exact ⟨⟨_, rfl⟩, ih property hproperty⟩
  | wrapper hs hfield hbare _ ih => exact Schema.accepted_modified (by simpa [isModified] using hs) hfield hbare ih

theorem of_mem_heldSchemas {s : Value} (h : s.Made) (hs : s.isModified = false) {inner : Step × Value}
    (hinner : inner ∈ s.heldSchemas) : inner.2.Made := by
  cases h with
  | leaf hvariant hleaf =>
    obtain ⟨t, hof, hchildren, -, -⟩ := exists_schema_of_leaf hvariant hleaf
    rw [(Schema.children_of_ofNode? hof hs).1, List.map_eq_nil_iff] at hchildren
    rw [hchildren] at hinner
    cases hinner
  | array harray hitems =>
    obtain ⟨entries, hentries⟩ := hitems.exists_entries
    rw [heldSchemas_of_array (Variant.holds_iff.1 harray.holds).1 harray.items_eq (elements?_of_entries? hentries)]
      at hinner
    rw [List.mem_singleton.1 hinner]
    exact hitems
  | tuple htuple hitems =>
    obtain ⟨items, hfield, helements⟩ := Option.bind_eq_some_iff.1 htuple.items_eq
    rw [heldSchemas_of_tuple (Variant.holds_iff.1 htuple.holds).1 hfield helements] at hinner
    obtain ⟨⟨x, i⟩, hx, rfl⟩ := List.mem_map.1 hinner
    exact hitems x (List.fst_mem_of_mem_zipIdx hx)
  | record hrecord hvalues =>
    rw [heldSchemas_of_record (Variant.holds_iff.1 hrecord.holds).1 (Schema.filter_values_of_record hrecord)] at hinner
    rw [List.mem_singleton.1 hinner]
    exact hvalues
  | object hobject hrequired _ hproperties =>
    rw [heldSchemas_of_object (Variant.holds_iff.1 hobject).1 (Schema.filter_values_of_object hobject)
      (hrequired.isObjectOf hobject).properties_eq] at hinner
    obtain ⟨entry, hentry, rfl⟩ := List.mem_map.1 hinner
    obtain ⟨property, hproperty, rfl⟩ := List.mem_map.1 hentry
    exact hproperties property hproperty
  | wrapper hwrapper =>
    rw [hs] at hwrapper
    cases hwrapper

theorem of_unwrap {s node : Value} (h : s.Made) (hnode : s.unwrap = .ok node) :
    node.Made ∧ node.isModified = false := by
  cases hs : s.isModified with
  | false =>
    rw [unwrap, hs] at hnode
    cases hnode
    exact ⟨h, hs⟩
  | true =>
    obtain ⟨item, hfield, hbare, hitem⟩ := h.exists_item hs
    rw [unwrap, hs, if_pos rfl, hfield] at hnode
    cases hnode
    exact ⟨hitem, hbare⟩

theorem of_mem_nodes {s : Value} (h : s.Made) {node : List Step × Value} (hnode : node ∈ s.nodes) : node.2.Made := by
  rw [nodes_eq] at hnode
  rcases List.mem_cons.1 hnode with rfl | hnode
  · exact h
  · split at hnode
    · cases hnode
    · obtain ⟨inner, hinner, hnode⟩ := List.mem_flatMap.1 hnode
      obtain ⟨found, hfound, rfl⟩ := List.mem_map.1 hnode
      have hlt := sizeOf_lt_of_mem_innerSchemas hinner
      have hmade : inner.2.Made := by
        unfold innerSchemas at hinner
        split at hinner
        · next held hheld =>
          obtain ⟨hheldMade, hbare⟩ := h.of_unwrap hheld
          exact hheldMade.of_mem_heldSchemas hbare hinner
        · cases hinner
      have hbelow := hmade.of_mem_nodes hfound
      exact hbelow
termination_by sizeOf s

/-- An object as builders make it requires just the properties that are not marked as optional. -/
theorem exists_requiresUnmarked {s : Value} (h : s.Made) (hs : Variant.object.holds s = true) :
    ∃ properties, s.RequiresUnmarked properties := by
  obtain ⟨htag, hfits⟩ := Variant.holds_iff.1 hs
  cases h with
  | @leaf _ variant hvariant hleaf =>
    rw [(Variant.holds_iff.1 hleaf).1] at htag
    cases variant <;> first | (exact absurd hvariant (by decide)) | (exact absurd htag (by decide))
  | array h | tuple h =>
    rw [(Variant.holds_iff.1 h.holds).1] at htag
    exact absurd htag (by decide)
  | record h =>
    have hvalues := Schema.filter_values_of_object hs
    rw [Schema.filter_values_of_record h] at hvalues
    cases hvalues
  | object _ hrequired => exact ⟨_, hrequired⟩
  | wrapper h =>
    rw [isModified, htag] at h
    exact absurd h (by decide)

/-- A name is required just if the property of this name is not marked as optional. -/
theorem any_unmarkedNames {properties : List (String × Value)} (h : (properties.map (·.1)).Nodup)
    {property : String × Value} (hproperty : property ∈ properties) :
    (unmarkedNames properties).any (fun name => (str property.1).sameKey (.str name)) = !property.2.isOptional := by
  rw [Bool.eq_iff_iff, List.any_eq_true, Bool.not_eq_true']
  constructor
  · rintro ⟨name, hname, hsame⟩
    obtain ⟨other, hother, rfl⟩ := List.mem_map.1 hname
    obtain ⟨hmem, hunmarked⟩ := List.mem_filter.1 hother
    have hnames : property.1 = other.1 := by simpa using sameKey_str_iff.1 hsame
    rw [List.inj_on_of_nodup_map h hproperty hmem hnames]
    simpa using hunmarked
  · intro hunmarked
    exact ⟨property.1, List.mem_map.2 ⟨property, List.mem_filter.2 ⟨hproperty, by simpa using hunmarked⟩, rfl⟩,
      sameKey_str_iff.2 rfl⟩

theorem propertyTexts_eq {names : List String} {properties : List (String × Value)} {texts : List String}
    (h : List.Forall₂ (fun property text => typeExpression property.2 = .ok text) properties texts)
    (hnames : ∀ property ∈ properties,
      names.any (fun name => (str property.1).sameKey (.str name)) = !property.2.isOptional) :
    Schema.propertyTexts names (properties.map fun property => Property.ofEntry (.str property.1, property.2)) =
      .ok (List.zipWith markedText properties texts) := by
  induction h with
  | nil => rfl
  | @cons property text properties texts hfirst _ ih =>
    rw [List.forall_mem_cons] at hnames
    have hfirst : (Schema.ofValue property.2).expression = .ok text := hfirst
    rw [List.map_cons, Property.ofEntry, Schema.propertyTexts]
    simp only [plain, hfirst, ih hnames.2, ok_bind, pure_eq_ok, List.zipWith_cons_cons, markedText,
      Schema.propertyText, hnames.1]
    cases property.2.isOptional <;> rfl

theorem expressions_eq {items : List Value} {texts : List String}
    (h : List.Forall₂ (fun x text => typeExpression x = .ok text) items texts) :
    Schema.expressions (items.map Schema.ofValue) = .ok texts := by
  induction h with
  | nil => rfl
  | @cons x text items texts hfirst _ ih =>
    have hfirst : (Schema.ofValue x).expression = .ok text := hfirst
    rw [List.map_cons, Schema.expressions, hfirst, ih]
    rfl

theorem isWrapperOf {s item : Value} (h : s.Made) (hs : s.isModified = true) (hfield : s.field? "item" = some item) :
    s.IsWrapperOf item :=
  ⟨hs, h.accepted.isSchema, hfield⟩

/-- A schema as builders make it is written with the marks of its properties. -/
theorem exists_text {s : Value} (h : s.Made) : ∃ text, typeExpression s = .ok text ∧ s.WrittenAs text := by
  induction h with
  | leaf hvariant hs =>
    obtain ⟨t, hof, -, -, htext⟩ := exists_schema_of_leaf hvariant hs
    refine ⟨_, ?_, .leaf hvariant hs⟩
    rw [typeExpression, Schema.ofValue_of_ofNode? hof, htext]
  | array hs _ ih =>
    obtain ⟨text, htext, hwritten⟩ := ih
    rw [typeExpression] at htext
    refine ⟨_, ?_, .array hs hwritten⟩
    rw [typeExpression, Schema.ofValue_array hs, Schema.expression, htext]
    rfl
  | tuple hs _ ih =>
    obtain ⟨texts, htexts⟩ := exists_forall₂ ih
    refine ⟨_, ?_, .tuple hs (htexts.imp fun _ _ h => h.2)⟩
    rw [typeExpression, Schema.ofValue_tuple hs, Schema.expression, expressions_eq (htexts.imp fun _ _ h => h.1)]
    rfl
  | record hs _ ih =>
    obtain ⟨text, htext, hwritten⟩ := ih
    rw [typeExpression] at htext
    refine ⟨_, ?_, .record hs hwritten⟩
    rw [typeExpression, Schema.ofValue_record hs, Schema.expression, htext]
    rfl
  | @object s properties hs hrequired hdistinct _ ih =>
    obtain ⟨texts, htexts⟩ := exists_forall₂ ih
    refine ⟨_, ?_, .object hs hrequired.properties_eq (htexts.imp fun _ _ h => h.2)⟩
    have hproperties := propertyTexts_eq (htexts.imp fun _ _ h => h.1) fun _ => any_unmarkedNames hdistinct
    rw [typeExpression, Schema.ofValue_object (hrequired.isObjectOf hs), Schema.expression]
    simp only [hrequired.requiredNames?_eq, List.map_map, Function.comp_def, hproperties, ok_bind, pure_eq_ok]
  | @wrapper s item hs hfield hbare hitem ih =>
    obtain ⟨text, htext, hwritten⟩ := ih
    refine ⟨text, ?_, .wrapper hs hfield hwritten⟩
    rw [typeExpression, Schema.ofValue_wrapper ((wrapper hs hfield hbare hitem).isWrapperOf hs hfield)]
    exact htext

end Made
end Value
end DataShape
