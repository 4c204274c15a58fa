import DataShape.Proofs.Validation.Parts

/-! Where the texts in a message come from. A value is described where it is of another kind than the schema asks, and
shown as a number where it breaks a constraint of numbers, together with the constraint. The opening words of a message
tell its cause. -/

namespace DataShape

/-- Every cause, if there is an answer, is of that sort. -/
def EveryCause (P : Cause → Prop) (x : Outcome (List Cause)) : Prop :=
  ∀ causes, x = .ok causes → ∀ cause ∈ causes, P cause

namespace EveryCause

variable {P : Cause → Prop} {α : Type}

theorem nil : EveryCause P (.ok []) := by
  rintro _ ⟨rfl⟩ cause ⟨⟩

theorem one {cause : Cause} (h : P cause) : EveryCause P (.ok [cause]) := by
  rintro _ ⟨rfl⟩ _ hcause
  rwa [List.mem_singleton.1 hcause]

theorem error {e : Failure} : EveryCause P (.error e) := by
  rintro _ ⟨⟩

theorem append {first second : List Cause} (hfirst : EveryCause P (.ok first)) (hsecond : EveryCause P (.ok second)) :
    EveryCause P (.ok (first ++ second)) := by
  rintro _ ⟨rfl⟩ cause hcause
  rcases List.mem_append.1 hcause with h | h
  · exact hfirst first rfl cause h
  · exact hsecond second rfl cause h

theorem bind {x : Outcome α} {f : α → Outcome (List Cause)} (h : ∀ a, x = .ok a → EveryCause P (f a)) :
    EveryCause P (x >>= f) := by
  intro causes hcauses
  obtain ⟨a, ha, hcauses⟩ := bind_eq_ok.1 hcauses
  exact h a ha causes hcauses

theorem flatten {f : α → Outcome (List Cause)} {rules : List α} (h : ∀ rule ∈ rules, EveryCause P (f rule)) :
    EveryCause P (do return (← rules.mapM f).flatten) := by
  apply bind
  rintro found hfound _ ⟨rfl⟩ cause hcause
  obtain ⟨causes, hcauses, hcause⟩ := List.mem_flatten.1 hcause
  obtain ⟨rule, hrule, heq⟩ := exists_of_mem_mapM hfound hcauses
  exact h rule hrule causes heq cause hcause

end EveryCause

section

variable {P : Cause → Prop} {option : Value}

theorem everyCause_numericOptionCauses {name : String} {broken : Value → Outcome (List Cause)}
    (hbad : option.isNull = false → option.isNumber = false → ∀ shown, option.literal = .ok shown →
      P (.badOption name shown))
    (hbroken : option.isNumber = true → EveryCause P (broken option)) :
    EveryCause P (numericOptionCauses name option broken) := by
  unfold numericOptionCauses
  split
  · exact .nil
  · next hnull =>
    split
    · next hnumber => exact hbroken hnumber
    · next hnumber =>
      apply EveryCause.bind
      intro shown hshown
      exact .one (hbad (Bool.eq_false_iff.2 hnull) (Bool.eq_false_iff.2 hnumber) shown hshown)

theorem NumberRule.everyCause_causes {rule : NumberRule} {v : Value} {shown : String}
    (hbad : option.isNull = false → option.isNumber = false → ∀ text, option.literal = .ok text →
      P (.badOption rule.key text))
    (hbroken : option.isNumber = true → rule.holds v option = false → ∀ limit, option.numberText = .ok limit →
      P (.numberBreaks rule limit shown)) :
    EveryCause P (rule.causes option v shown) := by
  apply everyCause_numericOptionCauses hbad
  intro hnumber
  split
  · exact .nil
  · next hholds =>
    apply EveryCause.bind
    intro limit hlimit
    exact .one (hbroken hnumber (Bool.eq_false_iff.2 hholds) limit hlimit)

theorem everyCause_patternCauses {text : String}
    (hbad : option ≠ .null → (∀ pattern, option ≠ .str pattern) → ∀ shown, option.literal = .ok shown →
      P (.badPattern shown))
    (hmalformed : ∀ pattern e, option = .str pattern → Pattern.compile pattern = .error (.malformed e) →
      P (.malformedPattern pattern e))
    (hmissed : ∀ pattern, option = .str pattern → P (.noMatch pattern)) :
    EveryCause P (patternCauses option text) := by
  unfold patternCauses
  split
  · exact .nil
  · next pattern =>
    split
    · split
      · exact .nil
      · exact .one (hmissed pattern rfl)
    · next fault hcompile =>
      cases fault with
      | malformed e => exact .one (hmalformed pattern e rfl hcompile)
      | repetitionTooLarge | tooManyDigits _ | conflictingFlags => exact .error
  · next hnull hstr =>
    apply EveryCause.bind
    intro shown hshown
    exact .one (hbad hnull hstr shown hshown)

theorem TextRule.everyCause_causes {rule : TextRule} {text : String}
    (hbad : rule ≠ .pattern → option.isNull = false → option.isNumber = false → ∀ shown, option.literal = .ok shown →
      P (.badOption rule.key shown))
    (hbroken : option.isNumber = true → ∀ limit, option.numberText = .ok limit →
      P (.tooLong limit text.length) ∧ P (.tooShort limit text.length))
    (hpattern : rule = .pattern → EveryCause P (patternCauses option text)) :
    EveryCause P (rule.causes option text) := by
  cases rule with
  | maxLength =>
    rw [causes]
    apply everyCause_numericOptionCauses (hbad (by decide))
    intro hnumber
    split
    · exact .bind fun limit hlimit => .one (hbroken hnumber limit hlimit).1
    · exact .nil
  | minLength =>
    rw [causes]
    apply everyCause_numericOptionCauses (hbad (by decide))
    intro hnumber
    split
    · exact .bind fun limit hlimit => .one (hbroken hnumber limit hlimit).2
    · exact .nil
  | pattern => exact hpattern rfl

theorem everyCause_keyCauses {properties : List (Property Schema)} {required : List String} {entries : Entries}
    (hunexpected : ∀ keys, Schema.unexpectedKeys properties entries = .ok keys → P (.unexpectedKeys keys))
    (hmissing : P (.missingKeys (Schema.missingKeys required entries))) :
    EveryCause P (Schema.keyCauses properties required entries) := by
  apply EveryCause.bind
  intro keys hkeys
  apply EveryCause.append
  · split
    · exact .nil
    · exact .one (hunexpected keys hkeys)
  · split
    · exact .nil
    · exact .one hmissing

end

namespace Schema

/-- What a value can be expected to be. -/
def expectedNames : List String := ["boolean", "null", "number", "string", "undefined", "array", "tuple", "object"]

/-- What is wrong with a value itself, by what the schema asks. -/
theorem everyCause_ownCauses {P : Cause → Prop} {s : Schema} {v : Value}
    (hinvalid : ∀ w, s = .invalid w → P .notASchema)
    (hmistyped : ∀ expected ∈ expectedNames, ∀ shown, v.description = .ok shown → P (.mistyped expected shown))
    (hnumber : ∀ options, s = .number options → v.isNumber = true → EveryCause P (numberCauses options v))
    (htext : ∀ options text, s = .string options → v = .str text → EveryCause P (textCauses options text))
    (hlength : ∀ expected actual, P (.wrongLength expected actual))
    (hrequired : ∀ properties required, s = .object properties required → requiredNames? required = none →
      ∀ shown, required.literal = .ok shown → P (.badRequired shown))
    (hkeys : ∀ properties required entries names, s = .object properties required → v.entries? = some entries →
      requiredNames? required = some names → EveryCause P (keyCauses properties names entries)) :
    EveryCause P (s.ownCauses v) := by
  have hother {expected : String} (h : expected ∈ expectedNames) : EveryCause P (mistyped expected v) :=
    .bind fun shown hshown => .one (hmistyped expected h shown hshown)
  cases s with
  | invalid w => exact .one (hinvalid w rfl)
  | any => exact .nil
  | boolean | null | undefined | array _ | record _ =>
    simp only [ownCauses]
    split
    · exact .nil
    · exact hother (by decide)
  | number options =>
    simp only [ownCauses]
    split
    · next hv => exact hnumber options rfl hv
    · exact hother (by decide)
  | string options =>
    simp only [ownCauses]
    split
    · next text => exact htext options text rfl rfl
    · exact hother (by decide)
  | tuple items =>
    simp only [ownCauses]
    split
    · exact hother (by decide)
    · split
      · exact .nil
      · exact .one (hlength _ _)
  | object properties required =>
    simp only [ownCauses]
    split
    · exact hother (by decide)
    · next entries hentries =>
      split
      · next hnames => exact .bind fun shown hshown => .one (hrequired properties required rfl hnames shown hshown)
      · next names hnames => exact hkeys properties required entries names rfl hentries hnames

end Schema

/-- What stands in a cause comes from the value and the schema that it is checked under. -/
def Cause.IsAbout (s : Schema) (v : Value) : Cause → Prop
  | .mistyped expected shown => expected ∈ Schema.expectedNames ∧ v.description = .ok shown
  | .badOption name _ => (∃ rule : NumberRule, name = rule.key) ∨ ∃ rule : TextRule, name = rule.key
  | .numberBreaks rule limit shown => ∃ options, s = .number options ∧ v.isNumber = true ∧
      (options rule).isNumber = true ∧ rule.holds v (options rule) = false ∧ (options rule).numberText = .ok limit ∧
      v.numberText = .ok shown
  | _ => True

/-- What is wrong with a value itself is said of it, and of the constraints of its schema. -/
theorem Schema.isAbout_ownCauses (s : Schema) (v : Value) : EveryCause (Cause.IsAbout s v) (s.ownCauses v) := by
  apply everyCause_ownCauses
  · intro _ _
    trivial
  · intro expected hexpected shown hshown
    exact ⟨hexpected, hshown⟩
  · rintro options rfl hv
    apply EveryCause.bind
    intro shown hshown
    apply EveryCause.flatten
    intro rule _
    apply NumberRule.everyCause_causes
    · intro _ _ _ _
      exact .inl ⟨rule, rfl⟩
    · intro hnumber hholds limit hlimit
      exact ⟨options, rfl, hv, hnumber, hholds, hlimit, hshown⟩
  · intro options text _ _
    apply EveryCause.flatten
    intro rule _
    apply TextRule.everyCause_causes
    · intro _ _ _ _ _
      exact .inr ⟨rule, rfl⟩
    · intro _ _ _
      exact ⟨trivial, trivial⟩
    · intro _
      exact everyCause_patternCauses (fun _ _ _ _ => trivial) (fun _ _ _ _ => trivial) fun _ _ => trivial
  · intro _ _
    trivial
  · intro _ _ _ _ _ _
    trivial
  · intro _ _ _ _ _ _ _
    exact everyCause_keyCauses (fun _ _ => trivial) trivial

/-- The message of an issue is the one of a cause in a value that validation comes to. -/
theorem exists_isAbout_of_mem_validate {schema v : Value} {path : String} {issues : List Issue}
    (h : validate schema v path = .ok issues) {issue : Issue} (hissue : issue ∈ issues) :
    ∃ location steps t w cause, (Schema.ofValue schema).Reaches v location steps t w ∧ Cause.IsAbout t w cause ∧
      issue.message = cause.message := by
  obtain ⟨found, hfound, hissues⟩ := bind_eq_ok.1 h
  cases hissues
  obtain ⟨inner, hinner, rfl⟩ := List.mem_map.1 hissue
  obtain ⟨location, steps, t, w, causes, cause, hreaches, hown, hcause, -, hmessage⟩ :=
    Schema.exists_cause_of_mem_issues hfound hinner
  exact ⟨location, steps, t, w, cause, hreaches, Schema.isAbout_ownCauses t w causes hown cause hcause, hmessage⟩

def Opens (start s : String) : Prop := start.toList <+: s.toList
deriving Decidable

theorem opens_self (s : String) : Opens s s := List.prefix_rfl

theorem Opens.append {start s : String} (h : Opens start s) (rest : String) : Opens start (s ++ rest) := by
  rw [Opens, String.toList_append]
  exact List.prefix_append_of_prefix h

theorem Opens.trans {first start s : String} (h : Opens first start) (hstart : Opens start s) : Opens first s :=
  List.IsPrefix.trans h hstart

/-- Neither of two texts starts with the other. -/
def Diverge (a b : String) : Prop := ¬ a.toList <+: b.toList ∧ ¬ b.toList <+: a.toList
deriving Decidable

theorem Diverge.not_opens {a b s : String} (h : Diverge a b) (ha : Opens a s) : ¬ Opens b s := by
  intro hb
  rcases List.prefix_or_prefix_of_prefix ha hb with hab | hba
  · exact h.1 hab
  · exact h.2 hba

namespace NumberRule

variable {rule rule' : NumberRule} {limit shown limit' shown' : String}

/-- The words that tell a constraint from all others. -/
def opening : NumberRule → String
  | .multipleOf => "Value must be a multiple of "
  | .maximum => "Value must be less than or equal to "
  | .exclusiveMaximum => "Value must be strictly less than "
  | .minimum => "Value must be greater than or equal to "
  | .exclusiveMinimum => "Value must be strictly greater than "

theorem opens_demand (rule : NumberRule) (limit shown : String) : Opens rule.opening (rule.demand limit shown) := by
  cases rule with
  | multipleOf => exact (opens_self _).append _
  | maximum | exclusiveMaximum | minimum | exclusiveMinimum => exact (((opens_self _).append _).append _).append _

theorem opens_value (rule : NumberRule) (limit shown : String) : Opens "Value" (rule.demand limit shown) := by
  have hopening : Opens "Value" rule.opening := by
    cases rule <;> decide
  exact hopening.trans (rule.opens_demand limit shown)

theorem diverge_opening (hne : rule ≠ rule') : Diverge rule.opening rule'.opening := by
  cases rule <;> cases rule' <;> first | exact absurd rfl hne | decide

/-- What is asked of a number tells the constraint, and what it is asked with. -/
theorem demand_eq_demand (hrule : rule ≠ .multipleOf) (h : rule'.demand limit' shown' = rule.demand limit shown) :
    rule' = rule ∧ limit' ++ (", instead was " ++ shown') = limit ++ (", instead was " ++ shown) := by
  have hsame : rule' = rule := by
    by_contra hne
    exact (diverge_opening hne).not_opens (rule'.opens_demand limit' shown') (h ▸ rule.opens_demand limit shown)
  subst hsame
  have hdemand (limit shown : String) :
      rule'.demand limit shown = rule'.opening ++ (limit ++ (", instead was " ++ shown)) := by
    cases rule' with
    | multipleOf => exact absurd rfl hrule
    | _ => rw [← String.append_assoc, ← String.append_assoc]; rfl
  rw [hdemand, hdemand] at h
  exact ⟨rfl, String.append_right_inj _ |>.1 h⟩

end NumberRule

namespace Cause

variable {cause : Cause}

def openings : List String :=
  ["Invalid schema", "Invalid pattern ", "String value must have a length no greater than ",
    "String value must have a length no less than ", "String value must match pattern: ", "Expected ",
    "Invalid required option ", "Unexpected keys: ", "Missing required keys: "]

theorem cases_opens (cause : Cause) :
    (∃ expected shown, cause = .mistyped expected shown) ∨ (∃ name shown, cause = .badOption name shown) ∨
      (∃ rule limit shown, cause = .numberBreaks rule limit shown) ∨ ∃ start ∈ openings, Opens start cause.message := by
  cases cause with
  | mistyped expected shown => exact .inl ⟨expected, shown, rfl⟩
  | badOption name shown => exact .inr (.inl ⟨name, shown, rfl⟩)
  | numberBreaks rule limit shown => exact .inr (.inr (.inl ⟨rule, limit, shown, rfl⟩))
  | notASchema => exact .inr (.inr (.inr ⟨_, by decide, opens_self _⟩))
  | noMatch _ | badRequired _ | unexpectedKeys _ | missingKeys _ =>
    exact .inr (.inr (.inr ⟨_, by decide, (opens_self _).append _⟩))
  | badPattern _ => exact .inr (.inr (.inr ⟨_, by decide, ((opens_self _).append _).append _⟩))
  | malformedPattern _ _ | tooLong _ _ | tooShort _ _ =>
    exact .inr (.inr (.inr ⟨_, by decide, (((opens_self _).append _).append _).append _⟩))
  | wrongLength _ _ => exact .inr (.inr (.inr ⟨_, by decide, ((((opens_self _).append _).append _).append _).append _⟩))

theorem IsAbout.not_opens_badOption {s : Schema} {v : Value} {name shown : String}
    (h : (Cause.badOption name shown).IsAbout s v) : ¬ Opens "Invalid type" (Cause.badOption name shown).message := by
  have hopens : Opens ("Invalid " ++ name) (Cause.badOption name shown).message := ((opens_self _).append _).append _
  have hdiverge : Diverge ("Invalid " ++ name) "Invalid type" := by
    rcases h with ⟨rule, rfl⟩ | ⟨rule, rfl⟩
    · cases rule <;> decide
    · cases rule <;> decide
  exact hdiverge.not_opens hopens

theorem IsAbout.eq_mistyped {s : Schema} {v : Value} (h : cause.IsAbout s v)
    (hopens : Opens "Invalid type" cause.message) : ∃ expected shown, cause = .mistyped expected shown := by
  rcases cause.cases_opens with hmistyped | ⟨name, shown, rfl⟩ | ⟨rule, limit, shown, rfl⟩ | ⟨start, hstart, hother⟩
  · exact hmistyped
  · exact absurd hopens h.not_opens_badOption
  · have hdiverge : Diverge "Value" "Invalid type" := by decide
    exact absurd hopens (hdiverge.not_opens (rule.opens_value limit shown))
  · have hdiverge : ∀ start ∈ openings, Diverge start "Invalid type" := by decide
    exact absurd hopens ((hdiverge start hstart).not_opens hother)

theorem eq_numberBreaks {rule : NumberRule} {limit shown : String} (h : cause.message = rule.demand limit shown) :
    ∃ rule' limit' shown', cause = .numberBreaks rule' limit' shown' := by
  have hopens : Opens "Value" cause.message := h ▸ rule.opens_value limit shown
  rcases cause.cases_opens with ⟨expected, text, rfl⟩ | ⟨name, text, rfl⟩ | hnumber | ⟨start, hstart, hother⟩
  · have hdiverge : Diverge "Invalid type, expected " "Value" := by decide
    exact absurd hopens (hdiverge.not_opens ((((opens_self _).append _).append _).append _))
  · have hdiverge : Diverge "Invalid " "Value" := by decide
    exact absurd hopens (hdiverge.not_opens ((((opens_self _).append _).append _).append _))
  · exact hnumber
  · have hdiverge : ∀ start ∈ openings, Diverge start "Value" := by decide
    exact absurd hopens ((hdiverge start hstart).not_opens hother)

end Cause

end DataShape
