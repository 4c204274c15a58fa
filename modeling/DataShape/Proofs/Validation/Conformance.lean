import DataShape.Proofs.Number.Remainder
import DataShape.Proofs.Validation.Parts

/-! What it means to conform to a schema, by recursion on the schema alone, without issues or paths.
Validation finds nothing just in the values that conform. -/

namespace DataShape

namespace Value

/-- Smaller as a number. Nothing is smaller or greater than what is not a number. -/
def Less (a b : Value) : Prop := ∃ x y, a.toExact? = some x ∧ b.toExact? = some y ∧ x.lt y = true

def AtMost (a b : Value) : Prop := ∃ x y, a.toExact? = some x ∧ b.toExact? = some y ∧ x.le y = true

end Value

/-- A real number keeps a constraint that is a real number. -/
def NumberRule.Kept (v limit : Value) : NumberRule → Prop
  | .multipleOf => limit.toExact? ≠ some (.finite 0) ∧ v.remainder? limit = some (.finite 0)
  | .maximum => ¬ limit.Less v
  | .exclusiveMaximum => ¬ limit.AtMost v
  | .minimum => ¬ v.Less limit
  | .exclusiveMinimum => ¬ v.AtMost limit

def Pattern.Found (pattern s : String) : Prop :=
  ∃ compiled, compile pattern = .ok compiled ∧
    ∃ position ≤ s.length, compiled.matchesAt s.toList.toArray position = true

def TextRule.Kept (s : String) (limit : Value) : TextRule → Prop
  | .maxLength => ¬ limit.Less (.int s.length)
  | .minLength => ¬ (Value.int s.length).Less limit
  | .pattern => ∃ pattern, limit = .str pattern ∧ Pattern.Found pattern s

/-- A constraint on texts is given in the way it has to be, if it is given. -/
def TextRule.Usable (option : Value) : TextRule → Prop
  | .maxLength | .minLength => option = .null ∨ option.isNumber = true
  | .pattern => option = .null ∨
    ∃ pattern compiled, option = .str pattern ∧ Pattern.compile pattern = .ok compiled

namespace Schema

/-- All constraints of a node are given in the way they have to be, if they are given. -/
def OptionsUsable : Schema → Prop
  | .number options => ∀ rule, options rule = .null ∨ (options rule).isNumber = true
  | .string options => ∀ rule : TextRule, rule.Usable (options rule)
  | _ => True

mutual

/-- A value conforms to a schema. -/
def Conforms : Schema → Value → Prop
  | .invalid _, _ => False
  | .any, _ => True
  | .boolean, v => ∃ b, v = .bool b
  | .null, v => v = .null
  | .undefined, v => v = .undefined
  | .number options, v => v.isNumber = true ∧ ∀ rule, options rule ≠ .null → rule.Kept v (options rule)
  | .string options, v => ∃ s, v = .str s ∧ ∀ rule, options rule ≠ .null → rule.Kept s (options rule)
  | .array items, v => ∃ elements, v.elements? = some elements ∧ ∀ x ∈ elements, items.Conforms x
  | .tuple items, v => ∃ elements, v.elements? = some elements ∧ ConformPointwise items elements
  | .record values, v => ∃ entries, v.entries? = some entries ∧ ∀ entry ∈ entries, values.Conforms entry.2
  | .object properties required, v => ∃ entries names,
    v.entries? = some entries ∧ requiredNames? required = some names ∧
    (∀ name ∈ names, Entries.hasKey entries (.str name) = true) ∧
    ∀ entry ∈ entries, ConformsDeclared properties entry.1 entry.2

def ConformPointwise : List Schema → List Value → Prop
  | [], [] => True
  | item :: items, v :: vs => item.Conforms v ∧ ConformPointwise items vs
  | _, _ => False

def ConformsDeclared : List (Property Schema) → Value → Value → Prop
  | [], _, _ => False
  | ⟨declared, _, schema⟩ :: properties, key, v =>
    (declared.sameKey key = true ∧ schema.Conforms v) ∨
      (declared.sameKey key = false ∧ ConformsDeclared properties key v)

end

/-- A value conforms to a schema, its parts left aside. -/
def ConformsItself : Schema → Value → Prop
  | .array _, v => v.isSequence = true
  | .tuple items, v => ∃ elements, v.elements? = some elements ∧ elements.length = items.length
  | .record _, v => v.isMapping = true
  | .object properties required, v => ∃ entries names,
    v.entries? = some entries ∧ requiredNames? required = some names ∧
    (∀ name ∈ names, Entries.hasKey entries (.str name) = true) ∧
    ∀ entry ∈ entries, ∃ property, propertyFor? properties entry.1 = some property
  | s, v => s.Conforms v

theorem conformPointwise_iff {items : List Schema} {elements : List Value} (index : Nat) :
    ConformPointwise items elements ↔ elements.length = items.length ∧
      ∀ part ∈ placeParts items elements index, part.schema.Conforms part.value := by
  induction items generalizing elements index with
  | nil => cases elements <;> simp [ConformPointwise, placeParts]
  | cons item items ih =>
    cases elements with
    | nil => simp [ConformPointwise]
    | cons v vs =>
      have hparts : placeParts (item :: items) (v :: vs) index =
          ⟨.index index, .index index, item, v⟩ :: placeParts items vs (index + 1) := rfl
      rw [ConformPointwise, ih (index + 1), hparts, List.forall_mem_cons, List.length_cons, List.length_cons,
        Nat.add_right_cancel_iff]
      exact and_left_comm

theorem conformsDeclared_iff {properties : List (Property Schema)} {key v : Value} :
    ConformsDeclared properties key v ↔
      ∃ property, propertyFor? properties key = some property ∧ property.schema.Conforms v := by
  induction properties with
  | nil => simp [ConformsDeclared, propertyFor?]
  | cons property properties ih =>
    obtain ⟨declared, isReadonly, schema⟩ := property
    simp only [ConformsDeclared, ih, propertyFor?, List.find?_cons]
    cases hkey : declared.sameKey key <;> simp

theorem conforms_array_iff {items : Schema} {v : Value} :
    (array items).Conforms v ↔
      (array items).ConformsItself v ∧ ∀ part ∈ (array items).parts v, part.schema.Conforms part.value := by
  simp only [Conforms, ConformsItself, parts, Value.isSequence]
  cases v.elements? with
  | none => simp
  | some elements =>
    simp only [Option.some.injEq, exists_eq_left', Option.isSome_some, Option.map_some, Option.getD_some, true_and]
    constructor
    · intro h part hpart
      obtain ⟨i, x, hx, rfl⟩ := mem_elementParts.1 hpart
      exact h x (List.mem_of_getElem? hx)
    · intro h x hx
      obtain ⟨i, hi⟩ := List.mem_iff_getElem?.1 hx
      exact h _ (mem_elementParts.2 ⟨i, x, hi, rfl⟩)

theorem conforms_tuple_iff {items : List Schema} {v : Value} :
    (tuple items).Conforms v ↔
      (tuple items).ConformsItself v ∧ ∀ part ∈ (tuple items).parts v, part.schema.Conforms part.value := by
  simp only [Conforms, ConformsItself, parts]
  cases v.elements? with
  | none => simp
  | some elements =>
    simp only [Option.some.injEq, exists_eq_left', Option.map_some, Option.getD_some, conformPointwise_iff 0]
    refine and_congr_right fun hlength => ?_
    rw [if_pos hlength]

theorem conforms_record_iff {values : Schema} {v : Value} :
    (record values).Conforms v ↔
      (record values).ConformsItself v ∧ ∀ part ∈ (record values).parts v, part.schema.Conforms part.value := by
  simp only [Conforms, ConformsItself, parts, Value.isMapping]
  cases v.entries? with
  | none => simp
  | some entries =>
    simp only [Option.some.injEq, exists_eq_left', Option.isSome_some, Option.map_some, Option.getD_some, true_and]
    constructor
    · intro h part hpart
      obtain ⟨entry, hentry, rfl⟩ := mem_entryParts.1 hpart
      exact h entry hentry
    · intro h entry hentry
      exact h _ (mem_entryParts.2 ⟨entry, hentry, rfl⟩)

theorem conforms_object_iff {properties : List (Property Schema)} {required v : Value} :
    (object properties required).Conforms v ↔ (object properties required).ConformsItself v ∧
      ∀ part ∈ (object properties required).parts v, part.schema.Conforms part.value := by
  simp only [Conforms, ConformsItself, parts, conformsDeclared_iff]
  constructor
  · rintro ⟨entries, names, hentries, hnames, hhas, hall⟩
    refine ⟨⟨entries, names, hentries, hnames, hhas, fun entry hentry => ?_⟩, ?_⟩
    · obtain ⟨property, hproperty, -⟩ := hall entry hentry
      exact ⟨property, hproperty⟩
    · simp only [hentries, hnames, Option.map_some, Option.getD_some, Option.isSome_some, if_true]
      intro part hpart
      obtain ⟨entry, hentry, property, hproperty, rfl⟩ := mem_propertyParts.1 hpart
      obtain ⟨found, hfound, hconforms⟩ := hall entry hentry
      rw [hproperty] at hfound
      cases hfound
      exact hconforms
  · rintro ⟨⟨entries, names, hentries, hnames, hhas, hdeclared⟩, hparts⟩
    refine ⟨entries, names, hentries, hnames, hhas, fun entry hentry => ?_⟩
    simp only [hentries, hnames, Option.map_some, Option.getD_some, Option.isSome_some, if_true] at hparts
    obtain ⟨property, hproperty⟩ := hdeclared entry hentry
    exact ⟨property, hproperty, hparts _ (mem_propertyParts.2 ⟨entry, hentry, property, hproperty, rfl⟩)⟩

/-- A value conforms if it does so itself, and all its parts conform to their schemas. -/
theorem conforms_iff_parts {s : Schema} {v : Value} :
    s.Conforms v ↔ s.ConformsItself v ∧ ∀ part ∈ s.parts v, part.schema.Conforms part.value := by
  cases s with
  | array items => exact conforms_array_iff
  | tuple items => exact conforms_tuple_iff
  | record values => exact conforms_record_iff
  | object properties required => exact conforms_object_iff
  | _ => simp [ConformsItself, parts]

end Schema

theorem Value.exists_toExact? {v : Value} (h : v.isNumber = true) : ∃ x, v.toExact? = some x := by
  cases v <;> first | exact ⟨_, rfl⟩ | cases h

theorem Value.less_iff {a b : Value} {x y : Exact} (ha : a.toExact? = some x) (hb : b.toExact? = some y) :
    a.Less b ↔ x.lt y = true := by
  simp [Less, ha, hb]

theorem Value.atMost_iff {a b : Value} {x y : Exact} (ha : a.toExact? = some x) (hb : b.toExact? = some y) :
    a.AtMost b ↔ x.le y = true := by
  simp [AtMost, ha, hb]

theorem NumberRule.holds_iff {rule : NumberRule} {v limit : Value} (hv : v.isNumber = true)
    (hlimit : limit.isNumber = true) : rule.holds v limit = true ↔ rule.Kept v limit := by
  obtain ⟨x, hx⟩ := Value.exists_toExact? hv
  obtain ⟨y, hy⟩ := Value.exists_toExact? hlimit
  cases rule with
  | multipleOf =>
    rw [holds, Value.isMultipleOf_iff, Kept, iff_and_self]
    intro h hzero
    rw [Value.remainder?_of_isZero hzero hlimit] at h
    cases h
  | maximum => simp [holds, Kept, hx, hy, keepsBound, Value.less_iff hy hx]
  | exclusiveMaximum => simp [holds, Kept, hx, hy, keepsBound, Value.atMost_iff hy hx]
  | minimum => simp [holds, Kept, hx, hy, keepsBound, Value.less_iff hx hy]
  | exclusiveMinimum => simp [holds, Kept, hx, hy, keepsBound, Value.atMost_iff hx hy]

theorem numericOptionCauses_eq_nil {name : String} {option : Value} {broken : Value → Outcome (List Cause)}
    (husable : option = .null ∨ option.isNumber = true) :
    numericOptionCauses name option broken = .ok [] ↔ (option ≠ .null → broken option = .ok []) := by
  unfold numericOptionCauses
  rcases husable with rfl | hnumber
  · simp [Value.isNull]
  · have hnull : option.isNull = false := by cases option <;> first | rfl | cases hnumber
    have hne : option ≠ .null := by rintro rfl; cases hnumber
    simp [hnull, hnumber, hne]

theorem NumberRule.causes_eq_nil {rule : NumberRule} {option v : Value} {shown : String}
    (husable : option = .null ∨ option.isNumber = true) (hv : v.isNumber = true) :
    rule.causes option v shown = .ok [] ↔ (option ≠ .null → rule.Kept v option) := by
  rw [causes, numericOptionCauses_eq_nil husable]
  refine forall_congr' fun hne => ?_
  rw [← holds_iff hv (husable.resolve_left hne)]
  cases rule.holds v option with
  | true => simp
  | false => cases option.numberText <;> simp

theorem numberCauses_eq_nil {options : NumberRule → Value} {v : Value} (hlimit : v.WithinDigitLimit)
    (husable : ∀ rule, options rule = .null ∨ (options rule).isNumber = true) (hv : v.isNumber = true) :
    numberCauses options v = .ok [] ↔ ∀ rule, options rule ≠ .null → rule.Kept v (options rule) := by
  obtain ⟨shown, hshown⟩ := Value.numberText_succeeds hlimit
  simp only [numberCauses, hshown, ok_bind, bind_eq_ok, pure_eq_ok, Except.ok.injEq, mapM_flatten_eq_nil]
  exact ⟨fun h rule => (rule.causes_eq_nil (husable rule) hv).1 (h rule rule.mem_all),
    fun h rule _ => (rule.causes_eq_nil (husable rule) hv).2 (h rule)⟩

theorem Pattern.Compiled.search_iff {compiled : Compiled} {s : String} :
    compiled.search s = true ↔ ∃ position ≤ s.length, compiled.matchesAt s.toList.toArray position = true := by
  simp only [search, List.any_eq_true, List.mem_range, List.size_toArray, String.length_toList, Nat.lt_succ_iff]

theorem isAbove_iff {length : Nat} {limit : Value} : isAbove length limit = true ↔ limit.Less (.int length) := by
  unfold isAbove Value.Less
  cases limit.toExact? <;> simp [Value.toExact?]

theorem isBelow_iff {length : Nat} {limit : Value} :
    isBelow length limit = true ↔ (Value.int length).Less limit := by
  unfold isBelow Value.Less
  cases limit.toExact? <;> simp [Value.toExact?]

theorem patternCauses_eq_nil {option : Value} {s : String} (husable : TextRule.pattern.Usable option) :
    patternCauses option s = .ok [] ↔ (option ≠ .null → TextRule.pattern.Kept s option) := by
  obtain rfl | ⟨pattern, compiled, rfl, hcompiled⟩ := husable
  · simp [patternCauses]
  · have hfound : Pattern.Found pattern s ↔ compiled.search s = true := by
      rw [Pattern.Compiled.search_iff, Pattern.Found, hcompiled]
      simp
    simp [patternCauses, hcompiled, TextRule.Kept, hfound]

theorem TextRule.causes_eq_nil {rule : TextRule} {option : Value} {s : String} (husable : rule.Usable option) :
    rule.causes option s = .ok [] ↔ (option ≠ .null → rule.Kept s option) := by
  cases rule with
  | maxLength =>
    rw [causes, numericOptionCauses_eq_nil husable]
    refine forall_congr' fun _ => ?_
    rw [Kept, ← isAbove_iff]
    cases isAbove s.length option with
    | true => cases option.numberText <;> simp
    | false => simp
  | minLength =>
    rw [causes, numericOptionCauses_eq_nil husable]
    refine forall_congr' fun _ => ?_
    rw [Kept, ← isBelow_iff]
    cases isBelow s.length option with
    | true => cases option.numberText <;> simp
    | false => simp
  | pattern => exact patternCauses_eq_nil husable

theorem textCauses_eq_nil {options : TextRule → Value} {s : String}
    (husable : ∀ rule : TextRule, rule.Usable (options rule)) :
    textCauses options s = .ok [] ↔ ∀ rule, options rule ≠ .null → rule.Kept s (options rule) := by
  simp only [textCauses, bind_eq_ok, pure_eq_ok, Except.ok.injEq, mapM_flatten_eq_nil]
  exact ⟨fun h rule => (TextRule.causes_eq_nil (husable rule)).1 (h rule rule.mem_all),
    fun h rule _ => (TextRule.causes_eq_nil (husable rule)).2 (h rule)⟩

namespace Schema

theorem mistyped_ne_nil {expected : String} {v : Value} : mistyped expected v ≠ .ok [] := by
  unfold mistyped
  cases v.description <;> simp

theorem keyCauses_eq_nil {properties : List (Property Schema)} {required : List String} {entries : Entries} :
    keyCauses properties required entries = .ok [] ↔
      (∀ name ∈ required, Entries.hasKey entries (.str name) = true) ∧
        ∀ entry ∈ entries, ∃ property, propertyFor? properties entry.1 = some property := by
  have hmissing : missingKeys required entries = [] ↔
      ∀ name ∈ required, Entries.hasKey entries (.str name) = true := by
    simp [missingKeys, List.filter_eq_nil_iff]
  have hunexpected : unexpectedKeys properties entries = .ok [] ↔
      ∀ entry ∈ entries, ∃ property, propertyFor? properties entry.1 = some property := by
    rw [unexpectedKeys, mapM_eq_ok_nil]
    simp [List.filter_eq_nil_iff, Entries.keys, propertyFor?, ← Option.isSome_iff_exists, List.find?_isSome]
  rw [← hmissing, ← hunexpected, keyCauses]
  cases unexpectedKeys properties entries with
  | error e => simp
  | ok unexpected =>
    cases unexpected with
    | nil => cases missingKeys required entries <;> simp
    | cons key keys => simp

/-- There is nothing wrong with a value itself just if it conforms, its parts left aside. -/
theorem ownCauses_eq_nil {s : Schema} {v : Value} (hs : s.OptionsUsable) (hv : v.WithinDigitLimit) :
    s.ownCauses v = .ok [] ↔ s.ConformsItself v := by
  cases s with
  | invalid _ => simp [ownCauses, ConformsItself, Conforms]
  | any => simp [ownCauses, ConformsItself, Conforms]
  | boolean => cases v <;> simp [ownCauses, ConformsItself, Conforms, mistyped_ne_nil]
  | null => cases v <;> simp [ownCauses, ConformsItself, Conforms, mistyped_ne_nil, Value.isNull]
  | undefined => cases v <;> simp [ownCauses, ConformsItself, Conforms, mistyped_ne_nil]
  | number options =>
    rw [ownCauses, ConformsItself, Conforms]
    · split
      · next hnumber => simp [numberCauses_eq_nil hv hs hnumber, hnumber]
      · next hnumber => simp [mistyped_ne_nil, hnumber]
    all_goals simp
  | string options =>
    cases v with
    | str s => simp [ownCauses, ConformsItself, Conforms, textCauses_eq_nil hs]
    | _ => simp [ownCauses, ConformsItself, Conforms, mistyped_ne_nil]
  | array items =>
    simp only [ownCauses, ConformsItself]
    split
    · next hsequence => simp [hsequence]
    · next hsequence => simp [hsequence, mistyped_ne_nil]
  | tuple items =>
    simp only [ownCauses, ConformsItself]
    cases v.elements? with
    | none => simp [mistyped_ne_nil]
    | some elements => by_cases hlength : elements.length = items.length <;> simp [hlength]
  | record values =>
    simp only [ownCauses, ConformsItself]
    split
    · next hmapping => simp [hmapping]
    · next hmapping => simp [hmapping, mistyped_ne_nil]
  | object properties required =>
    simp only [ownCauses, ConformsItself]
    cases v.entries? with
    | none => simp [mistyped_ne_nil]
    | some entries =>
      cases requiredNames? required with
      | none => cases required.literal <;> simp
      | some names => simp only [keyCauses_eq_nil, Option.some.injEq, exists_eq_left', exists_and_left]

/-- A part has no issues if its step can be written and it has none under its own schema. -/
theorem part_issues_eq_nil {part : Part} (hstep : ∃ step, part.step.text = .ok step) :
    part.issues = .ok [] ↔ part.schema.issues part.value = .ok [] := by
  obtain ⟨step, hstep⟩ := hstep
  simp only [Part.issues, hstep, ok_bind, atStep]
  cases part.schema.issues part.value <;> simp

theorem issues_eq_nil {s : Schema} {v : Value} (hs : s.Everywhere OptionsUsable) (hv : v.WithinDigitLimit) :
    s.issues v = .ok [] ↔ s.Conforms v := by
  induction s, v using induction_on_parts with
  | step s v ih =>
    have hown := ownCauses_eq_nil hs.here hv
    have hbelow : partIssues (s.parts v) = .ok [] ↔ ∀ part ∈ s.parts v, part.schema.Conforms part.value := by
      simp only [partIssues, bind_eq_ok, pure_eq_ok, Except.ok.injEq, mapM_flatten_eq_nil]
      refine forall₂_congr fun part hpart => ?_
      rw [part_issues_eq_nil (step_text_succeeds hv hpart)]
      exact ih part hpart (hs.child (mem_children_of_mem_parts hpart)) (hv.part (value_mem_parts hpart))
    rw [conforms_iff_parts, ← hown, ← hbelow, issues_eq]
    cases s.ownCauses v with
    | error e => simp
    | ok own => cases partIssues (s.parts v) <;> simp

end Schema

/-- Validation finds nothing in a value just if the value conforms to the schema, for schemas whose options
can be used. -/
theorem validate_eq_nil_iff_conforms (schema v : Value) (path : String)
    (hoptions : (Schema.ofValue schema).Everywhere Schema.OptionsUsable) (hv : v.WithinDigitLimit) :
    validate schema v path = .ok [] ↔ (Schema.ofValue schema).Conforms v := by
  rw [← Schema.issues_eq_nil hoptions hv, validate]
  cases (Schema.ofValue schema).issues v <;> simp

/-- A mapping with a list of prices that are not negative. -/
theorem validate_prices_eq_nil :
    validate (.ofFields [("type", .str "object"), ("properties", .ofFields [("prices",
        .ofFields [("type", .str "array"), ("items", .ofFields [("type", .str "number"), ("minimum", .int 0)])])]),
        ("required", .list [.str "prices"])])
      (.ofFields [("prices", .list [.int 3, .int 0])]) "" = .ok [] := by
  refine (validate_eq_nil_iff_conforms _ _ _ ?_ ?_).2 ?_
  · refine .intro trivial fun child hchild => ?_
    obtain rfl := List.mem_singleton.1 hchild
    refine .intro trivial fun child hchild => ?_
    obtain rfl := List.mem_singleton.1 hchild
    refine .intro (fun rule => ?_) fun _ h => absurd h List.not_mem_nil
    cases rule <;> first | exact .inl rfl | exact .inr rfl
  · simp [Value.WithinDigitLimit, Value.IsWritableNumber, Value.ofFields]
    exact ⟨withinDigitLimit_of_le (by decide), withinDigitLimit_of_le (by decide)⟩
  · refine ⟨_, _, rfl, rfl, by decide, fun entry hentry => ?_⟩
    obtain rfl := List.mem_singleton.1 hentry
    refine .inl ⟨rfl, _, rfl, fun x hx => ?_⟩
    refine ⟨?_, fun rule hrule => ?_⟩
    · rcases List.mem_pair.1 hx with rfl | rfl <;> rfl
    · cases rule with
      | minimum =>
        rcases List.mem_pair.1 hx with rfl | rfl
        · exact fun h => absurd ((Value.less_iff rfl rfl).1 h) (by decide)
        · exact fun h => absurd ((Value.less_iff rfl rfl).1 h) (by decide)
      | _ => exact absurd rfl hrule

end DataShape
