import DataShape.Proofs.Validation.Cause

/-! Issues that say that a schema is not well formed. Validation under a well-formed schema reports none of
them, since what it says of values, options and patterns never reads like them. -/

namespace DataShape

/-- Says that there is no schema, or that the names which an object requires cannot be used. -/
def SaysDefective (message : String) : Prop :=
  message = "Invalid schema" ∨ ∃ shown, message = "Invalid required option " ++ shown

def defectiveOpenings : List (List Char) :=
  [['I', 'n', 'v', 'a', 'l', 'i', 'd', ' ', 's'], ['I', 'n', 'v', 'a', 'l', 'i', 'd', ' ', 'r']]

theorem SaysDefective.opening {message : String} (h : SaysDefective message) :
    message.toList.take 9 ∈ defectiveOpenings := by
  obtain rfl | ⟨shown, rfl⟩ := h
  · rw [String.toList_ofList]
    decide
  · rw [String.toList_append, String.toList_ofList, List.take_append_of_le_length (by decide)]
    decide

/-- Starts in another way. -/
def OpensOtherwise (message : String) : Prop :=
  9 ≤ message.toList.length ∧ message.toList.take 9 ∉ defectiveOpenings

theorem OpensOtherwise.not_saysDefective {message : String} (h : OpensOtherwise message) :
    ¬ SaysDefective message :=
  fun hsays => h.2 hsays.opening

theorem opensOtherwise_ofList {start : List Char} (h : 9 ≤ start.length ∧ start.take 9 ∉ defectiveOpenings) :
    OpensOtherwise (String.ofList start) := by
  rwa [OpensOtherwise, String.toList_ofList]

theorem OpensOtherwise.append {start : String} (h : OpensOtherwise start) (rest : String) :
    OpensOtherwise (start ++ rest) := by
  refine ⟨?_, ?_⟩
  · rw [String.toList_append, List.length_append]
    exact Nat.le_add_right_of_le h.1
  · rw [String.toList_append, List.take_append_of_le_length h.1]
    exact h.2

/-- What is said of an option names the option. -/
theorem opensOtherwise_option {name : List Char} (h : 1 ≤ name.length ∧ name.take 1 ≠ ['s'] ∧ name.take 1 ≠ ['r']) :
    OpensOtherwise ("Invalid " ++ String.ofList name) := by
  have hlist : "Invalid " ++ String.ofList name = String.ofList (['I', 'n', 'v', 'a', 'l', 'i', 'd', ' '] ++ name) := by
    rw [String.ofList_append]
  rw [hlist]
  refine opensOtherwise_ofList ⟨by simpa using h.1, ?_⟩
  cases name with
  | nil => exact absurd h.1 (by decide)
  | cons c cs => simpa [defectiveOpenings] using h.2

namespace Cause

/-- What is said of a value, or of an option under its own name. -/
def IsOrdinary : Cause → Prop
  | .notASchema | .badRequired _ => False
  | .badOption name _ => (∃ rule : NumberRule, name = rule.key) ∨ ∃ rule : TextRule, name = rule.key
  | _ => True

theorem IsOrdinary.not_saysDefective {cause : Cause} (h : cause.IsOrdinary) : ¬ SaysDefective cause.message := by
  cases cause with
  | notASchema => exact h.elim
  | badRequired shown => exact h.elim
  | badOption name shown =>
    obtain ⟨rule, rfl⟩ | ⟨rule, rfl⟩ := h <;> cases rule <;>
      exact (((opensOtherwise_option (by decide)).append _).append _).not_saysDefective
  | mistyped expected shown =>
    exact ((((opensOtherwise_ofList (by decide)).append _).append _).append _).not_saysDefective
  | badPattern shown => exact (((opensOtherwise_ofList (by decide)).append _).append _).not_saysDefective
  | malformedPattern pattern e =>
    exact ((((opensOtherwise_ofList (by decide)).append _).append _).append _).not_saysDefective
  | numberBreaks rule limit shown =>
    cases rule with
    | multipleOf => exact ((opensOtherwise_ofList (by decide)).append _).not_saysDefective
    | _ => exact ((((opensOtherwise_ofList (by decide)).append _).append _).append _).not_saysDefective
  | tooLong limit length | tooShort limit length =>
    exact ((((opensOtherwise_ofList (by decide)).append _).append _).append _).not_saysDefective
  | noMatch pattern => exact ((opensOtherwise_ofList (by decide)).append _).not_saysDefective
  | wrongLength expected actual =>
    exact (((((opensOtherwise_ofList (by decide)).append _).append _).append _).append _).not_saysDefective
  | unexpectedKeys keys => exact ((opensOtherwise_ofList (by decide)).append _).not_saysDefective
  | missingKeys keys => exact ((opensOtherwise_ofList (by decide)).append _).not_saysDefective

end Cause

theorem NumberRule.isOrdinary_of_mem {rule : NumberRule} {option v : Value} {shown : String}
    {causes : List Cause} {cause : Cause} (h : rule.causes option v shown = .ok causes)
    (hcause : cause ∈ causes) : cause.IsOrdinary := by
  have hevery : EveryCause Cause.IsOrdinary (rule.causes option v shown) := by
    apply everyCause_causes
    · intro _ _ _ _
      exact .inl ⟨rule, rfl⟩
    · intro _ _ _ _
      trivial
  exact hevery causes h cause hcause

theorem TextRule.isOrdinary_of_mem {rule : TextRule} {option : Value} {s : String} {causes : List Cause}
    {cause : Cause} (h : rule.causes option s = .ok causes) (hcause : cause ∈ causes) : cause.IsOrdinary := by
  have hevery : EveryCause Cause.IsOrdinary (rule.causes option s) := by
    apply everyCause_causes
    · intro _ _ _ _ _
      exact .inr ⟨rule, rfl⟩
    · intro _ _ _
      exact ⟨trivial, trivial⟩
    · intro _
      exact everyCause_patternCauses (fun _ _ _ _ => trivial) (fun _ _ _ _ => trivial) fun _ _ => trivial
  exact hevery causes h cause hcause

namespace Schema

/-- A cause of an issue of a value itself, by what in the schema gives rise to it. -/
inductive Blames (v : Value) : Schema → Cause → Prop
  | notASchema (w : Value) : Blames v (.invalid w) .notASchema
  | mistyped (s : Schema) (expected shown : String) : Blames v s (.mistyped expected shown)
  | number {options : NumberRule → Value} {rule : NumberRule} {shown : String} {causes : List Cause} {cause : Cause}
      (h : rule.causes (options rule) v shown = .ok causes) (hcause : cause ∈ causes) :
      Blames v (.number options) cause
  | string {options : TextRule → Value} {rule : TextRule} {text : String} {causes : List Cause} {cause : Cause}
      (h : rule.causes (options rule) text = .ok causes) (hcause : cause ∈ causes) : Blames v (.string options) cause
  | wrongLength (s : Schema) (expected actual : Nat) : Blames v s (.wrongLength expected actual)
  | badRequired {properties : List (Property Schema)} {required : Value} (h : requiredNames? required = none)
      (shown : String) : Blames v (.object properties required) (.badRequired shown)
  | unexpectedKeys (s : Schema) (keys : List String) : Blames v s (.unexpectedKeys keys)
  | missingKeys (s : Schema) (keys : List String) : Blames v s (.missingKeys keys)

theorem blames_of_mem_ownCauses {s : Schema} {v : Value} {causes : List Cause} {cause : Cause}
    (h : s.ownCauses v = .ok causes) (hcause : cause ∈ causes) : Blames v s cause := by
  have hevery : EveryCause (Blames v s) (s.ownCauses v) := by
    apply everyCause_ownCauses
    · rintro w rfl
      exact .notASchema w
    · intro expected _ shown _
      exact .mistyped s expected shown
    · rintro options rfl _
      exact .bind fun shown _ => .flatten fun rule _ found hfound cause hmem => .number hfound hmem
    · rintro options text rfl _
      exact .flatten fun rule _ found hfound cause hmem => .string hfound hmem
    · exact .wrongLength s
    · rintro properties required rfl hnames shown _
      exact .badRequired hnames shown
    · intro _ _ _ _ _ _ _
      exact everyCause_keyCauses (fun keys _ => .unexpectedKeys s keys) (.missingKeys s _)
  exact hevery causes h cause hcause

/-- A node that is not defective is not the cause of an issue that says it is. -/
theorem isOrdinary_of_mem_ownCauses {s : Schema} {v : Value} {causes : List Cause} {cause : Cause}
    (hs : s.isDefective = false) (h : s.ownCauses v = .ok causes) (hcause : cause ∈ causes) :
    cause.IsOrdinary := by
  cases blames_of_mem_ownCauses h hcause with
  | notASchema => cases hs
  | badRequired hnames => simp [isDefective, hnames] at hs
  | number hcauses hmem => exact NumberRule.isOrdinary_of_mem hcauses hmem
  | string hcauses hmem => exact TextRule.isOrdinary_of_mem hcauses hmem
  | _ => trivial

theorem WellFormed.not_saysDefective {s : Schema} {v : Value} {issues : List Issue} {issue : Issue}
    (hs : s.WellFormed) (h : s.issues v = .ok issues) (hissue : issue ∈ issues) : ¬ SaysDefective issue.message := by
  obtain ⟨_, _, t, w, causes, cause, hreaches, hown, hcause, -, hmessage⟩ := exists_cause_of_mem_issues h hissue
  rw [hmessage]
  exact (isOrdinary_of_mem_ownCauses (hreaches.everywhere hs).here hown hcause).not_saysDefective

end Schema
end DataShape
