import DataShape.Proofs.Schema.Reading
import DataShape.Proofs.Validation.Parts
import DataShape.Proofs.Value.Description

/-! Validation always comes to an end, whatever stands in the schema and in the value: with a list of
issues, unless a whole number is too long to be written or a pattern is beyond what can be compiled. -/

namespace DataShape

/-- A pattern that can be compiled, or that is refused for its form. -/
def Pattern.IsReadable (pattern : String) : Prop :=
  (∃ compiled, Pattern.compile pattern = .ok compiled) ∨ ∃ e, Pattern.compile pattern = .error (.malformed e)

variable {v : Value}

theorem numericOptionCauses_succeeds {name : String} {option : Value} {broken : Value → Outcome (List Cause)}
    (hoption : option.WithinDigitLimit) (hbroken : ∃ causes, broken option = .ok causes) :
    ∃ causes, numericOptionCauses name option broken = .ok causes := by
  unfold numericOptionCauses
  split
  · exact ⟨_, rfl⟩
  · split
    · exact hbroken
    · exact bind_succeeds (Value.literal_succeeds hoption) fun _ _ => ⟨_, rfl⟩

theorem NumberRule.causes_succeeds (rule : NumberRule) {option : Value} (hoption : option.WithinDigitLimit)
    (v : Value) (shown : String) : ∃ causes, rule.causes option v shown = .ok causes := by
  refine numericOptionCauses_succeeds hoption ?_
  split
  · exact ⟨_, rfl⟩
  · exact bind_succeeds (Value.numberText_succeeds hoption) fun _ _ => ⟨_, rfl⟩

theorem numberCauses_succeeds {options : NumberRule → Value}
    (hoptions : ∀ rule, (options rule).WithinDigitLimit) (hv : v.WithinDigitLimit) :
    ∃ causes, numberCauses options v = .ok causes := by
  refine bind_succeeds (Value.numberText_succeeds hv) fun shown _ => ?_
  refine bind_succeeds (mapM_succeeds.2 fun rule _ => ?_) fun _ _ => ⟨_, rfl⟩
  exact rule.causes_succeeds (hoptions rule) v shown

theorem patternCauses_succeeds {option : Value} (hoption : option.WithinDigitLimit) (s : String)
    (hpattern : ∀ pattern, option = .str pattern → Pattern.IsReadable pattern) :
    ∃ causes, patternCauses option s = .ok causes := by
  unfold patternCauses
  split
  · exact ⟨_, rfl⟩
  · next pattern =>
    obtain ⟨compiled, hcompile⟩ | ⟨e, hcompile⟩ := hpattern pattern rfl
    · simp [hcompile]
    · simp [hcompile, Pattern.Fault.failure?]
  · exact bind_succeeds (Value.literal_succeeds hoption) fun _ _ => ⟨_, rfl⟩

theorem TextRule.causes_succeeds (rule : TextRule) {option : Value} (hoption : option.WithinDigitLimit)
    (s : String) (hpattern : ∀ pattern, rule = .pattern → option = .str pattern → Pattern.IsReadable pattern) :
    ∃ causes, rule.causes option s = .ok causes := by
  have hlimit := Value.numberText_succeeds hoption
  cases rule with
  | maxLength | minLength =>
    rw [causes]
    refine numericOptionCauses_succeeds hoption ?_
    split
    · exact bind_succeeds hlimit fun _ _ => ⟨_, rfl⟩
    · exact ⟨_, rfl⟩
  | pattern => exact patternCauses_succeeds hoption s fun pattern => hpattern pattern rfl

theorem textCauses_succeeds {options : TextRule → Value} (hoptions : ∀ rule, (options rule).WithinDigitLimit)
    (s : String) (hpattern : ∀ pattern, options .pattern = .str pattern → Pattern.IsReadable pattern) :
    ∃ causes, textCauses options s = .ok causes := by
  refine bind_succeeds (mapM_succeeds.2 fun rule _ => ?_) fun _ _ => ⟨_, rfl⟩
  exact rule.causes_succeeds (hoptions rule) s fun pattern hrule => hrule ▸ hpattern pattern

namespace Schema

theorem mistyped_succeeds (expected : String) (hv : v.WithinDigitLimit) :
    ∃ causes, mistyped expected v = .ok causes :=
  bind_succeeds (Value.description_succeeds hv) fun _ _ => ⟨_, rfl⟩

theorem keyCauses_succeeds (properties : List (Property Schema)) (required : List String) {entries : Entries}
    (hkeys : ∀ entry ∈ entries, entry.1.WithinDigitLimit) :
    ∃ causes, keyCauses properties required entries = .ok causes := by
  refine bind_succeeds (mapM_succeeds.2 fun key hkey => ?_) fun _ _ => ⟨_, rfl⟩
  obtain ⟨entry, hentry, rfl⟩ := List.mem_map.1 (List.mem_filter.1 hkey).1
  exact Value.plain_succeeds (hkeys entry hentry)

theorem ownCauses_succeeds {s : Schema} (hs : ∀ x ∈ s.data, x.WithinDigitLimit) (hv : v.WithinDigitLimit)
    (hpattern : ∀ options text pattern, s = .string options → v = .str text → options .pattern = .str pattern →
      Pattern.IsReadable pattern) :
    ∃ causes, s.ownCauses v = .ok causes := by
  have hmistyped (expected : String) := mistyped_succeeds expected hv
  cases s with
  | invalid w => exact ⟨_, rfl⟩
  | any => exact ⟨_, rfl⟩
  | boolean =>
    simp only [ownCauses]
    split
    · exact ⟨_, rfl⟩
    · exact hmistyped _
  | null =>
    simp only [ownCauses]
    split
    · exact ⟨_, rfl⟩
    · exact hmistyped _
  | number options =>
    simp only [ownCauses]
    split
    · exact numberCauses_succeeds (fun rule => hs _ (List.mem_map_of_mem rule.mem_all)) hv
    · exact hmistyped _
  | string options =>
    simp only [ownCauses]
    split
    · next text =>
      exact textCauses_succeeds (fun rule => hs _ (List.mem_map_of_mem rule.mem_all)) text
        fun pattern => hpattern options text pattern rfl rfl
    · exact hmistyped _
  | undefined =>
    simp only [ownCauses]
    split
    · exact ⟨_, rfl⟩
    · exact hmistyped _
  | array items =>
    simp only [ownCauses]
    split
    · exact ⟨_, rfl⟩
    · exact hmistyped _
  | tuple items =>
    simp only [ownCauses]
    split
    · exact hmistyped _
    · exact ⟨_, rfl⟩
  | record values =>
    simp only [ownCauses]
    split
    · exact ⟨_, rfl⟩
    · exact hmistyped _
  | object properties required =>
    simp only [ownCauses]
    split
    · exact hmistyped _
    · next entries hentries =>
      split
      · exact bind_succeeds (Value.literal_succeeds (hs _ List.mem_cons_self)) fun _ _ => ⟨_, rfl⟩
      · exact keyCauses_succeeds _ _ fun entry hentry => (hv.entry hentries hentry).1

theorem issues_succeeds {s : Schema} (hs : s.Everywhere fun t => ∀ x ∈ t.data, x.WithinDigitLimit)
    (hv : v.WithinDigitLimit)
    (hpattern : ∀ location steps options text pattern,
      s.Reaches v location steps (.string options) (.str text) → options .pattern = .str pattern →
        Pattern.IsReadable pattern) :
    ∃ issues, s.issues v = .ok issues := by
  induction s, v using induction_on_parts with
  | step s v ih =>
    rw [issues_eq]
    refine bind_succeeds (ownCauses_succeeds hs.here hv ?_) fun own _ => ?_
    · rintro options text pattern rfl rfl
      exact hpattern [] [] options text pattern (.here _ _)
    · refine bind_succeeds (bind_succeeds (mapM_succeeds.2 fun part hpart => ?_) fun _ _ => ⟨_, rfl⟩)
        fun _ _ => ⟨_, rfl⟩
      refine bind_succeeds (step_text_succeeds hv hpart) fun step _ => ?_
      refine bind_succeeds (ih part hpart (hs.child (mem_children_of_mem_parts hpart))
        (hv.part (value_mem_parts hpart)) ?_) fun _ _ => ⟨_, rfl⟩
      intro location steps options text pattern hreaches
      exact hpattern _ _ options text pattern (.part hpart hreaches)

end Schema

/-- Whatever values stand for the schema and for the value, and whatever the path in front: there is a list
of issues, if no whole number is too long to be written and every pattern that is reached can be compiled
or is refused for its form. -/
theorem validate_always_answers (schema v : Value) (path : String) (hschema : schema.WithinDigitLimit)
    (hv : v.WithinDigitLimit)
    (hpattern : ∀ location steps options text pattern,
      (Schema.ofValue schema).Reaches v location steps (.string options) (.str text) →
        options .pattern = .str pattern → Pattern.IsReadable pattern) :
    ∃ issues, validate schema v path = .ok issues := by
  refine bind_succeeds (Schema.issues_succeeds ?_ hv hpattern) fun _ _ => ⟨_, rfl⟩
  exact Schema.everywhere_data trivial hschema

/-- An array of texts, with a limit that is no number and a pattern that is not closed. -/
theorem validate_malformed_options_answers :
    ∃ issues, validate
      (.ofFields [("type", .str "array"), ("items", .ofFields [("type", .str "string"),
        ("maxLength", .str "long"), ("pattern", .str "(")])])
      (.list [.str "a", .null]) "/rows" = .ok issues := by
  refine validate_always_answers _ _ _ ?_ ?_ ?_
  · simp [Value.WithinDigitLimit, Value.IsWritableNumber, Value.ofFields]
  · simp [Value.WithinDigitLimit, Value.IsWritableNumber]
  · intro location steps options text pattern hreaches hpattern
    have hall := hreaches.everywhere (P := fun t => ∀ options, t = .string options → options .pattern = .str "(")
      (.intro (fun _ h => by cases h) fun child hchild => by
        obtain rfl := List.mem_singleton.1 hchild
        exact .intro (fun _ h => by cases h; rfl) fun _ h => absurd h List.not_mem_nil)
    rw [hall.here options rfl] at hpattern
    cases hpattern
    exact .inr ⟨_, rfl⟩

end DataShape
