import DataShape.Proofs.Schema.Construction
import DataShape.Proofs.Validation.Structure

/-! Validation under schemas that builders make. Where the options are usable, no issue is the fault of the schema:
there is none under any well-formed schema. -/

namespace DataShape

theorem not_bad_of_usable {option : Value} (husable : option = .null ∨ option.isNumber = true)
    (hnull : option.isNull = false) (hnumber : option.isNumber = false) : False := by
  rcases husable with rfl | husable
  · cases hnull
  · rw [hnumber] at husable
    cases husable

theorem NumberRule.kind_of_mem_causes {rule : NumberRule} {option v : Value} {shown : String} {causes : List Cause}
    {cause : Cause} (husable : option = .null ∨ option.isNumber = true) (h : rule.causes option v shown = .ok causes)
    (hcause : cause ∈ causes) : cause.kind ≠ .invalidSchema := by
  have hevery : EveryCause (·.kind ≠ .invalidSchema) (rule.causes option v shown) := by
    apply everyCause_causes
    · intro hnull hnumber
      exact (not_bad_of_usable husable hnull hnumber).elim
    · intro _ _ limit _
      simp [Cause.kind]
  exact hevery causes h cause hcause

theorem TextRule.kind_of_mem_causes {rule : TextRule} {option : Value} {s : String} {causes : List Cause}
    {cause : Cause} (husable : rule.Usable option) (h : rule.causes option s = .ok causes) (hcause : cause ∈ causes) :
    cause.kind ≠ .invalidSchema := by
  have hevery : EveryCause (·.kind ≠ .invalidSchema) (rule.causes option s) := by
    apply everyCause_causes
    · intro hrule hnull hnumber
      cases rule with
      | maxLength | minLength => exact (not_bad_of_usable husable hnull hnumber).elim
      | pattern => exact absurd rfl hrule
    · intro _ limit _
      simp [Cause.kind]
    · rintro rfl
      apply everyCause_patternCauses
      · intro hnull hstr
        obtain rfl | ⟨pattern, compiled, rfl, hcompiled⟩ := husable
        · exact absurd rfl hnull
        · exact absurd rfl (hstr pattern)
      · rintro pattern e rfl hcompile
        obtain hnull | ⟨_, compiled, hpattern, hcompiled⟩ := husable
        · cases hnull
        · cases hpattern
          rw [hcompiled] at hcompile
          cases hcompile
      · intro pattern _
        simp [Cause.kind]
  exact hevery causes h cause hcause

namespace Schema

theorem kind_of_mem_ownCauses {s : Schema} {v : Value} {causes : List Cause} {cause : Cause}
    (hs : s.isDefective = false) (husable : s.OptionsUsable) (h : s.ownCauses v = .ok causes)
    (hcause : cause ∈ causes) : cause.kind ≠ .invalidSchema := by
  cases blames_of_mem_ownCauses h hcause with
  | notASchema => cases hs
  | badRequired hnames => simp [isDefective, hnames] at hs
  | @number _ rule _ _ _ hcauses hmem => exact NumberRule.kind_of_mem_causes (husable rule) hcauses hmem
  | @string _ rule _ _ _ hcauses hmem => exact TextRule.kind_of_mem_causes (husable rule) hcauses hmem
  | _ => simp [Cause.kind]

/-- No issue of a value under a well-formed schema with usable options is the fault of the schema. -/
theorem WellFormed.kind_ne_invalidSchema {s : Schema} {v : Value} {issues : List Issue} {issue : Issue}
    (hs : s.WellFormed) (husable : s.Everywhere OptionsUsable) (h : s.issues v = .ok issues) (hissue : issue ∈ issues) :
    issue.kind ≠ .invalidSchema := by
  obtain ⟨_, _, t, w, causes, cause, hreaches, hown, hcause, hkind, -⟩ := exists_cause_of_mem_issues h hissue
  rw [hkind]
  exact kind_of_mem_ownCauses (hreaches.everywhere hs).here (hreaches.everywhere husable).here hown hcause

end Schema

/-- Whatever builders are called, one inside the other, they return a schema that passes the check. No wrapper in it is
around another; every object requires just the properties that are not marked as optional, in their order, and has no
list for that if there are none; it is written with the marks of every property. With usable options, no issue is ever
its fault. -/
theorem Construction.build_is_well_formed (c : Construction) :
    ∃ s, c.build = .ok s ∧ (∀ path, checkSchema s path = .ok ()) ∧
      (∀ node ∈ s.nodes, node.2.isModified = true →
        ∃ item, node.2.field? "item" = some item ∧ item.isModified = false) ∧
      (∀ node ∈ s.nodes, ∀ inner, node.2.unwrap = .ok inner → Variant.object.holds inner = true →
        ∃ properties, inner.RequiresUnmarked properties) ∧
      (∃ text, typeExpression s = .ok text ∧ s.WrittenAs text) ∧
      (c.Everywhere HasUsableOptions → ∀ v path issues, validate s v path = .ok issues →
        ∀ issue ∈ issues, issue.kind ≠ .invalidSchema) := by
  obtain ⟨s, hs⟩ := c.exists_makes
  refine ⟨s, hs.build_eq, hs.made.accepted, fun node hnode hmodified => ?_, fun node hnode inner hinner hobject => ?_,
    hs.made.exists_text, fun husable v path issues hissues issue hissue => ?_⟩
  · obtain ⟨item, hfield, hbare, -⟩ := (hs.made.of_mem_nodes hnode).exists_item hmodified
    exact ⟨item, hfield, hbare⟩
  · exact ((hs.made.of_mem_nodes hnode).of_unwrap hinner).1.exists_requiresUnmarked hobject
  · obtain ⟨found, hfound, hunder⟩ := bind_eq_ok.1 hissues
    cases hunder
    obtain ⟨below, hbelow, rfl⟩ := List.mem_map.1 hissue
    have hwell := Schema.wellFormed_of_check (hs.made.accepted path)
    rw [Issue.under_kind]
    exact hwell.kind_ne_invalidSchema (hs.usable husable) hfound hbelow

/-- A readonly property that may be left out, beside one that is missing. -/
theorem Construction.build_labels_is_well_formed :
    ∃ s issues,
      (Construction.object [("labels", .optional (.readonly (.array (.string fun
          | .maxLength => .int 3
          | _ => .null)))), ("open", .readonly .boolean)]).build = .ok s ∧
      validate s (.ofFields [("labels", .list [.str "new"])]) "/shop" = .ok issues ∧ issues.length = 1 ∧
      ∀ issue ∈ issues, issue.kind ≠ .invalidSchema := by
  obtain ⟨s, hs, -, -, -, -, hkinds⟩ := build_is_well_formed
    (.object [("labels", .optional (.readonly (.array (.string fun
      | .maxLength => .int 3
      | _ => .null)))), ("open", .readonly .boolean)])
  have hbuild := hs
  cases hs
  refine ⟨_, ?issues, hbuild, ?answer, ?length, hkinds ?_ _ "/shop" _ ?answer⟩
  case answer | length => exact rfl
  refine .intro trivial fun property hproperty => ?_
  rcases List.mem_pair.1 hproperty with rfl | rfl
  · refine .intro trivial fun part hpart => ?_
    obtain rfl := List.mem_singleton.1 hpart
    refine .intro trivial fun part hpart => ?_
    obtain rfl := List.mem_singleton.1 hpart
    refine .intro trivial fun part hpart => ?_
    obtain rfl := List.mem_singleton.1 hpart
    refine .intro (fun rule => ?_) fun part hpart => absurd hpart List.not_mem_nil
    cases rule
    · exact .inr rfl
    · exact .inl rfl
    · exact .inl rfl
  · refine .intro trivial fun part hpart => ?_
    obtain rfl := List.mem_singleton.1 hpart
    exact .intro trivial fun part hpart => absurd hpart List.not_mem_nil

end DataShape
