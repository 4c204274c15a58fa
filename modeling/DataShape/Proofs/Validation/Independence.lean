import DataShape.Proofs.Schema.Relaxation
import DataShape.Proofs.Validation.Path
import DataShape.Proofs.Value.Keys
import DataShape.Schema.Builder
import Mathlib.Data.List.Nodup

/-! Constraints are checked one by one. What validation says of a number or a text under a schema is what it says under
each constraint of the schema alone, one after the other: none of them hides, repeats or alters what another has to
say, and nothing else that stands in the schema counts. -/

namespace DataShape

theorem Builder.fieldOrNull_tagged_one (tag name : String) (option : Value) {other : String} (h : other ≠ "type") :
    (tagged tag [(name, option)]).fieldOrNull other = if name = other then option else .null := by
  have hsame (a : String) : (Value.str a).sameKey (.str other) = decide (a = other) := by
    rw [Bool.eq_iff_iff, Value.sameKey_str_iff, Value.str.injEq, decide_eq_true_eq]
  simp only [Value.fieldOrNull, Value.field?, tagged, Value.ofFields, Value.entries?, Option.bind_some, List.map_cons,
    List.map_nil, Entries.lookup?_cons, hsame, h.symm, decide_false, decide_eq_true_eq]
  by_cases hname : name = other
  · simp [hname]
  · simp [hname, Entries.lookup?]

theorem Schema.issuesAt_of_no_parts {s : Schema} {v : Value} (h : s.parts v = []) (path : String) :
    s.issuesAt path v = (s.ownCauses v).map (List.map (·.issueAt path)) := by
  rw [issuesAt_eq, h]
  cases s.ownCauses v <;> simp [Except.map]

theorem validate_number {s v : Value} (hs : Variant.number.holds s = true) (hv : v.isNumber = true) (path : String) :
    validate s v path =
      (numberCauses (fun rule => s.fieldOrNull rule.key) v).map (List.map (·.issueAt path)) := by
  rw [validate_eq_issuesAt, Schema.ofValue_number hs, Schema.issuesAt_of_no_parts rfl, Schema.ownCauses, if_pos hv]

theorem validate_string {s : Value} (hs : Variant.string.holds s = true) (text path : String) :
    validate s (.str text) path =
      (textCauses (fun rule => s.fieldOrNull rule.key) text).map (List.map (·.issueAt path)) := by
  rw [validate_eq_issuesAt, Schema.ofValue_string hs, Schema.issuesAt_of_no_parts rfl, Schema.ownCauses]

/-- What one constraint has to say of a real number. The number is shown first, whatever is given for the constraint. -/
def NumberRule.causesFor (rule : NumberRule) (option v : Value) : Outcome (List Cause) := do
  let shown ← v.numberText
  rule.causes option v shown

theorem numberCauses_eq_mapM (options : NumberRule → Value) (v : Value) :
    numberCauses options v =
      (NumberRule.all.mapM fun rule : NumberRule => rule.causesFor (options rule) v).map List.flatten := by
  unfold numberCauses NumberRule.causesFor
  cases v.numberText with
  | error e => rfl
  | ok shown => rfl

theorem textCauses_eq_mapM (options : TextRule → Value) (text : String) :
    textCauses options text =
      (TextRule.all.mapM fun rule : TextRule => rule.causes (options rule) text).map List.flatten := rfl

/-- A number that cannot be shown stops validation, whichever constraint is given; otherwise one that is not given has
nothing to say. -/
theorem numberCauses_of_one (rule : NumberRule) {options : NumberRule → Value}
    (hother : ∀ other, other ≠ rule → options other = .null) (v : Value) :
    numberCauses options v = rule.causesFor (options rule) v := by
  unfold numberCauses NumberRule.causesFor
  cases v.numberText with
  | error e => rfl
  | ok shown =>
    apply mapM_flatten_eq_single (by decide) rule.mem_all
    intro other _ hne
    rw [hother other hne]
    rfl

theorem textCauses_of_one (rule : TextRule) {options : TextRule → Value}
    (hother : ∀ other, other ≠ rule → options other = .null) (text : String) :
    textCauses options text = rule.causes (options rule) text := by
  rw [textCauses_eq_mapM]
  apply mapM_flatten_eq_single (by decide) rule.mem_all
  intro other _ hne
  rw [hother other hne]
  cases other <;> rfl

theorem validate_number_one (rule : NumberRule) (option : Value) {v : Value} (hv : v.isNumber = true) (path : String) :
    validate (Builder.tagged "number" [(rule.key, option)]) v path =
      (rule.causesFor option v).map (List.map (·.issueAt path)) := by
  have hfield (other : NumberRule) := Builder.fieldOrNull_tagged_one "number" rule.key option other.key_ne_type
  rw [validate_number rfl hv, numberCauses_of_one rule, hfield, if_pos rfl]
  intro other hne
  rw [hfield, if_neg fun h => hne (NumberRule.key_injective h).symm]

theorem validate_string_one (rule : TextRule) (option : Value) (text path : String) :
    validate (Builder.tagged "string" [(rule.key, option)]) (.str text) path =
      (rule.causes option text).map (List.map (·.issueAt path)) := by
  have hfield (other : TextRule) := Builder.fieldOrNull_tagged_one "string" rule.key option other.key_ne_type
  rw [validate_string rfl, textCauses_of_one rule, hfield, if_pos rfl]
  intro other hne
  rw [hfield, if_neg fun h => hne (TextRule.key_injective h).symm]

theorem length_numericOptionCauses_le {name : String} {option : Value} {broken : Value → Outcome (List Cause)}
    {causes : List Cause} (hbroken : ∀ found, broken option = .ok found → found.length ≤ 1)
    (h : numericOptionCauses name option broken = .ok causes) : causes.length ≤ 1 := by
  unfold numericOptionCauses at h
  split at h
  · cases h
    exact Nat.zero_le 1
  · split at h
    · exact hbroken causes h
    · obtain ⟨shown, -, hcauses⟩ := bind_eq_ok.1 h
      cases hcauses
      exact Nat.le_refl 1

theorem NumberRule.length_causes_le {rule : NumberRule} {option v : Value} {shown : String} {causes : List Cause}
    (h : rule.causes option v shown = .ok causes) : causes.length ≤ 1 := by
  refine length_numericOptionCauses_le (fun found hfound => ?_) h
  split at hfound
  · cases hfound
    exact Nat.zero_le 1
  · obtain ⟨limit, -, hlimit⟩ := bind_eq_ok.1 hfound
    cases hlimit
    exact Nat.le_refl 1

theorem length_patternCauses_le {option : Value} {text : String} {causes : List Cause}
    (h : patternCauses option text = .ok causes) : causes.length ≤ 1 := by
  unfold patternCauses at h
  split at h
  · cases h
    exact Nat.zero_le 1
  · split at h
    · cases h
      split
      · exact Nat.zero_le 1
      · exact Nat.le_refl 1
    · split at h
      · cases h
        exact Nat.le_refl 1
      · cases h
  · obtain ⟨shown, -, hcauses⟩ := bind_eq_ok.1 h
    cases hcauses
    exact Nat.le_refl 1

theorem TextRule.length_causes_le {rule : TextRule} {option : Value} {text : String} {causes : List Cause}
    (h : rule.causes option text = .ok causes) : causes.length ≤ 1 := by
  cases rule with
  | maxLength | minLength =>
    rw [TextRule.causes] at h
    refine length_numericOptionCauses_le (fun found hfound => ?_) h
    split at hfound
    · obtain ⟨limit, -, hlimit⟩ := bind_eq_ok.1 hfound
      cases hlimit
      exact Nat.le_refl 1
    · cases hfound
      exact Nat.zero_le 1
  | pattern => exact length_patternCauses_le h

/-- A schema with nothing but what another schema has under one key. -/
def Value.keepingOnly (s : Value) (tag name : String) : Value :=
  .ofFields [("type", .str tag), (name, s.fieldOrNull name)]

/-- Constraints of the schemas of a variant are checked one by one, on a value that stands at a path. -/
structure CheckedOneByOne {α : Type} (variant : Variant) (constraints : List α) (key : α → String) (v : Value)
    (path : String) : Prop where
  /-- Each constraint alone is asked, in their order, and what they say stands one behind the other. -/
  concatenated : ∀ s, variant.holds s = true → validate s v path =
    (constraints.mapM fun constraint => validate (s.keepingOnly variant.tag (key constraint)) v path).map List.flatten
  /-- A constraint alone has one issue at most, whatever is given for it. -/
  at_most_one : ∀ s : Value, ∀ constraint ∈ constraints, ∀ found,
    validate (s.keepingOnly variant.tag (key constraint)) v path = .ok found → found.length ≤ 1
  /-- What is given for one constraint makes a difference to its own issue, and to nothing before or behind it. -/
  changed : ∀ s t, variant.holds s = true → variant.holds t = true → ∀ constraint ∈ constraints,
    (∀ other ∈ constraints, other ≠ constraint → s.fieldOrNull (key other) = t.fieldOrNull (key other)) →
    ∀ found found', validate s v path = .ok found → validate t v path = .ok found' →
    ∃ before own own' after, found = before ++ own ++ after ∧ found' = before ++ own' ++ after ∧
      validate (s.keepingOnly variant.tag (key constraint)) v path = .ok own ∧
      validate (t.keepingOnly variant.tag (key constraint)) v path = .ok own'
  /-- Nothing makes a difference but what is given for the constraints. -/
  unaffected : ∀ s t, variant.holds s = true → variant.holds t = true →
    (∀ constraint ∈ constraints, s.fieldOrNull (key constraint) = t.fieldOrNull (key constraint)) →
    validate s v path = validate t v path

/-- Constraints are checked one by one if what is said of the value is put together of what each says, which is what is
said under it alone. -/
theorem CheckedOneByOne.of_said {α : Type} {variant : Variant} {constraints : List α} {key : α → String} {v : Value}
    {path : String} (hnodup : constraints.Nodup) (said : α → Value → Outcome (List Issue))
    (hall : ∀ s, variant.holds s = true → validate s v path =
      (constraints.mapM fun constraint => said constraint (s.fieldOrNull (key constraint))).map List.flatten)
    (halone : ∀ constraint option,
      validate (Builder.tagged variant.tag [(key constraint, option)]) v path = said constraint option)
    (hone : ∀ constraint option found, said constraint option = .ok found → found.length ≤ 1) :
    CheckedOneByOne variant constraints key v path := by
  have hkept (s : Value) (constraint : α) : validate (s.keepingOnly variant.tag (key constraint)) v path =
      said constraint (s.fieldOrNull (key constraint)) := halone constraint _
  constructor
  case concatenated =>
    intro s hs
    simp only [hall s hs, hkept]
  case at_most_one =>
    intro s constraint _ found hfound
    rw [hkept] at hfound
    exact hone constraint _ found hfound
  case changed =>
    intro s t hs ht constraint hmem hother found found' hfound hfound'
    obtain ⟨above, below, rfl⟩ := List.append_of_mem hmem
    -- The constraint stands nowhere else among them, so the others say the same under both schemas.
    rw [List.nodup_middle, List.nodup_cons, List.mem_append, not_or] at hnodup
    obtain ⟨⟨habove, hbelow⟩, -⟩ := hnodup
    have hsame (part : List α) (hpart : part ⊆ above ++ constraint :: below) (hnot : constraint ∉ part) :
        (part.mapM fun constraint => said constraint (t.fieldOrNull (key constraint))) =
          part.mapM fun constraint => said constraint (s.fieldOrNull (key constraint)) := by
      apply mapM_congr_of_mem
      intro other hmem
      rw [hother other (hpart hmem) fun h => hnot (h ▸ hmem)]
    rw [hall s hs] at hfound
    rw [hall t ht] at hfound'
    obtain ⟨first, own, last, hfirst, hown, hlast, rfl⟩ := flatten_mapM_append_cons_eq_ok.1 hfound
    obtain ⟨first', own', last', hfirst', hown', hlast', rfl⟩ := flatten_mapM_append_cons_eq_ok.1 hfound'
    rw [hsame above (List.subset_append_left _ _) habove, hfirst] at hfirst'
    rw [hsame below (fun _ h => List.mem_append_right _ (List.mem_cons_of_mem _ h)) hbelow, hlast] at hlast'
    cases hfirst'
    cases hlast'
    exact ⟨first.flatten, own, own', last.flatten, rfl, rfl, (hkept s constraint).trans hown,
      (hkept t constraint).trans hown'⟩
  case unaffected =>
    intro s t hs ht hsame
    rw [hall s hs, hall t ht, mapM_congr_of_mem fun constraint hmem => by rw [hsame constraint hmem]]

/-- Constraints on numbers and on texts are checked one by one: each alone has one issue at most, and what is found
under all of them is what is found under each, in a fixed order. To give another constraint, to leave one out or to give
one in a way that cannot be used makes a difference to its own issue only, and nothing else in a schema makes any. -/
theorem constraints_checked_one_by_one (v : Value) (path : String) :
    (v.isNumber = true →
      CheckedOneByOne .number [NumberRule.multipleOf, .maximum, .exclusiveMaximum, .minimum, .exclusiveMinimum]
        NumberRule.key v path) ∧
    ∀ text, v = .str text →
      CheckedOneByOne .string [TextRule.maxLength, .minLength, .pattern] TextRule.key v path := by
  constructor
  · intro hv
    apply CheckedOneByOne.of_said (by decide)
      fun rule option => (rule.causesFor option v).map (List.map (·.issueAt path))
    · intro s hs
      rw [validate_number hs hv, numberCauses_eq_mapM, map_flatten_mapM]
      rfl
    · intro rule option
      exact validate_number_one rule option hv path
    · intro rule option found hfound
      obtain ⟨causes, hcauses, rfl⟩ := map_eq_ok.1 hfound
      obtain ⟨shown, -, hcauses⟩ := bind_eq_ok.1 hcauses
      rw [List.length_map]
      exact NumberRule.length_causes_le hcauses
  · rintro text rfl
    apply CheckedOneByOne.of_said (by decide)
      fun rule option => (rule.causes option text).map (List.map (·.issueAt path))
    · intro s hs
      rw [validate_string hs, textCauses_eq_mapM, map_flatten_mapM]
      rfl
    · intro rule option
      exact validate_string_one rule option text path
    · intro rule option found hfound
      obtain ⟨causes, hcauses, rfl⟩ := map_eq_ok.1 hfound
      rw [List.length_map]
      exact TextRule.length_causes_le hcauses

/-- A number with a factor that is no number, above a bound and below another, beside an entry that is no constraint;
and a text with a limit that is no number, too short and not as the pattern has it. -/
theorem broken_and_unusable_constraints_checked :
    validate (.ofFields [("type", .str "number"), ("minimum", .int 10), ("title", .str "price"), ("maximum", .int 3),
        ("multipleOf", .bool true)]) (.int 5) "/price" = .ok [
      ⟨.invalidSchema, "Invalid multipleOf option True", "/price"⟩,
      ⟨.invalidValue, "Value must be less than or equal to 3, instead was 5", "/price"⟩,
      ⟨.invalidValue, "Value must be greater than or equal to 10, instead was 5", "/price"⟩] ∧
    validate (.ofFields [("type", .str "string"), ("pattern", .str "^[A-Z]+$"), ("minLength", .int 3),
        ("maxLength", .list [])]) (.str "ab") "/unit" = .ok [
      ⟨.invalidSchema, "Invalid maxLength option []", "/unit"⟩,
      ⟨.invalidValue, "String value must have a length no less than 3, instead was 2", "/unit"⟩,
      ⟨.invalidValue, "String value must match pattern: ^[A-Z]+$", "/unit"⟩] := by
  constructor
  · have hnumber := (constraints_checked_one_by_one (.int 5) "/price").1 rfl
    rw [hnumber.concatenated _ rfl]
    decide +kernel
  · have htext := (constraints_checked_one_by_one (.str "ab") "/unit").2 "ab" rfl
    rw [htext.concatenated _ rfl]
    decide +kernel

end DataShape
