import DataShape.Proofs.Schema.Check
import DataShape.Proofs.Validation.Parts
import DataShape.Proofs.Value.Description

/-! What stops validation. Whatever the schema and the value are, it is a whole number that is too long to be written,
or a pattern that is refused for something else than its form; that a value does not conform never stops it. -/

namespace DataShape

/-- A whole number that is too long to be written, or what keeps a pattern from being compiled besides its form. -/
def Failure.StopsValidation : Failure → Prop
  | .tooLongToWrite | .tooLongToRead _ | .repetitionTooLarge | .conflictingFlags => True
  | _ => False

theorem Failure.stopsValidation_of_eq {e : Failure} (h : e = .tooLongToWrite) : e.StopsValidation := by
  rw [h]
  trivial

open Failure (stopsValidation_of_eq)

theorem stopsBy_numericOptionCauses (name : String) (option : Value) {broken : Value → Outcome (List Cause)}
    (hbroken : StopsBy Failure.StopsValidation (broken option)) :
    StopsBy Failure.StopsValidation (numericOptionCauses name option broken) := by
  unfold numericOptionCauses
  split
  · exact .ok _
  · split
    · exact hbroken
    · exact .bind (fun e he => stopsValidation_of_eq (Value.literal_eq_error he)) fun _ => .ok _

theorem stopsBy_numberText (v : Value) : StopsBy Failure.StopsValidation v.numberText :=
  fun _ he => stopsValidation_of_eq (Value.numberText_eq_error he)

theorem NumberRule.stopsBy_causes (rule : NumberRule) (option v : Value) (shown : String) :
    StopsBy Failure.StopsValidation (rule.causes option v shown) := by
  refine stopsBy_numericOptionCauses _ _ ?_
  split
  · exact .ok _
  · exact .bind (stopsBy_numberText option) fun _ => .ok _

theorem Pattern.Fault.stopsValidation {fault : Pattern.Fault} {e : Failure} (h : fault.failure? = .ok e) :
    e.StopsValidation := by
  cases fault <;> cases h <;> trivial

theorem stopsBy_patternCauses (option : Value) (s : String) :
    StopsBy Failure.StopsValidation (patternCauses option s) := by
  unfold patternCauses
  split
  · exact .ok _
  · split
    · exact .ok _
    · split
      · exact .ok _
      · next failure hfailure =>
        rintro _ ⟨rfl⟩
        exact Pattern.Fault.stopsValidation hfailure
  · exact .bind (fun e he => stopsValidation_of_eq (Value.literal_eq_error he)) fun _ => .ok _

theorem TextRule.stopsBy_causes (rule : TextRule) (option : Value) (s : String) :
    StopsBy Failure.StopsValidation (rule.causes option s) := by
  cases rule with
  | maxLength | minLength =>
    rw [causes]
    refine stopsBy_numericOptionCauses _ _ ?_
    split
    · exact .bind (stopsBy_numberText option) fun _ => .ok _
    · exact .ok _
  | pattern => exact stopsBy_patternCauses option s

namespace Schema

theorem stopsBy_mistyped (expected : String) (v : Value) : StopsBy Failure.StopsValidation (mistyped expected v) :=
  .bind (fun _ he => stopsValidation_of_eq (Value.description_eq_error he)) fun _ => .ok _

theorem stopsBy_ownCauses (s : Schema) (v : Value) : StopsBy Failure.StopsValidation (s.ownCauses v) := by
  have hmistyped (expected : String) := stopsBy_mistyped expected v
  cases s with
  | invalid _ | any => exact .ok _
  | boolean | null | undefined | array _ | record _ =>
    simp only [ownCauses]
    split
    · exact .ok _
    · exact hmistyped _
  | number options =>
    simp only [ownCauses]
    split
    · refine .bind (stopsBy_numberText v) fun shown => .bind (.mapM fun rule _ => ?_) fun _ => .ok _
      exact rule.stopsBy_causes (options rule) v shown
    · exact hmistyped _
  | string options =>
    simp only [ownCauses]
    split
    · next text => exact .bind (.mapM fun rule _ => rule.stopsBy_causes (options rule) text) fun _ => .ok _
    · exact hmistyped _
  | tuple items =>
    simp only [ownCauses]
    split
    · exact hmistyped _
    · exact .ok _
  | object properties required =>
    simp only [ownCauses]
    split
    · exact hmistyped _
    · split
      · exact .bind (fun e he => stopsValidation_of_eq (Value.literal_eq_error he)) fun _ => .ok _
      · exact .bind (.mapM fun key _ e he => stopsValidation_of_eq (Value.plain_eq_error he)) fun _ => .ok _

/-- What stops validation in a part stops it as a whole, and nothing else does. -/
theorem stopsBy_issues (s : Schema) (v : Value) : StopsBy Failure.StopsValidation (s.issues v) := by
  induction s, v using induction_on_parts with
  | step s v ih =>
    rw [issues_eq]
    have hparts (part : Part) (hpart : part ∈ s.parts v) : StopsBy Failure.StopsValidation part.issues :=
      .bind (fun e he => stopsValidation_of_eq (step_text_eq_error he)) fun step => .bind (ih part hpart) fun _ => .ok _
    exact .bind (stopsBy_ownCauses s v) fun own => .bind (.bind (.mapM hparts) fun _ => .ok _) fun _ => .ok _

end Schema

variable {schema v : Value} {issues : List Issue}

/-- Validation is stopped by the length of a number or by a pattern only, and never by an issue. -/
theorem validate_eq_error {path : String} {e : Failure} (h : validate schema v path = .error e) : e.StopsValidation :=
  StopsBy.bind (Schema.stopsBy_issues _ v) (fun _ => .ok _) e h

/-- A value that is refused is refused for the issues that validation finds, and there are some. -/
theorem requireValid_eq_invalid_iff :
    requireValid schema v = .error (.invalid issues) ↔ validate schema v "" = .ok issues ∧ issues ≠ [] := by
  unfold requireValid
  rw [bind_eq_error]
  constructor
  · rintro (h | ⟨found, hfound, h⟩)
    · exact (validate_eq_error h).elim
    · cases found with
      | nil => cases h
      | cons issue rest =>
        cases h
        exact ⟨hfound, List.cons_ne_nil _ _⟩
  · rintro ⟨hfound, hne⟩
    refine .inr ⟨issues, hfound, ?_⟩
    cases issues with
    | nil => exact absurd rfl hne
    | cons issue rest => rfl

end DataShape
