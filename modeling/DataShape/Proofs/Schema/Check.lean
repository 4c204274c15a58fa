import DataShape.Proofs.Schema.Reading
import DataShape.Proofs.Value.Limit

/-! What the check of a schema finds: nothing in a tree that is well formed, and the first node that is
defective in any other. -/

namespace DataShape
namespace Schema

/-- Some steps lead to a defective node that the check comes to first: all above it, and all that stands
before on the way to it, is well formed. -/
inductive FirstDefect : Schema → List Step → Schema → Prop
  | here {s : Schema} (h : s.isDefective = true) : FirstDefect s [] s
  | child {s child t : Schema} {step : Step} {before after : List (Step × Schema)} {location : List Step}
      (hs : s.isDefective = false) (hchildren : s.children = before ++ (step, child) :: after)
      (hbefore : ∀ c ∈ before, c.2.WellFormed) (rest : FirstDefect child location t) :
      FirstDefect s (step :: location) t

theorem FirstDefect.isDefective {s t : Schema} {location : List Step} (h : s.FirstDefect location t) :
    t.isDefective = true := by
  induction h with
  | here h => exact h
  | child _ _ _ _ ih => exact ih

theorem FirstDefect.everywhere {P : Schema → Prop} {s t : Schema} {location : List Step}
    (h : s.FirstDefect location t) (hs : s.Everywhere P) : t.Everywhere P := by
  induction h with
  | here => exact hs
  | @child s child _ step before after _ _ hchildren _ _ ih =>
    have hmem : (step, child) ∈ s.children := by
      rw [hchildren]
      exact List.mem_append_right _ List.mem_cons_self
    exact ih (hs.child hmem)

theorem checkNode_eq_ok {s : Schema} {path : String} (h : s.checkNode path = .ok ()) : s.isDefective = false := by
  cases hs : s.isDefective with
  | false => rfl
  | true =>
    cases s with
    | invalid v => cases hv : v.literal <;> simp [checkNode, hv] at h
    | _ => simp [checkNode, hs] at h

theorem wellFormed_of_check {s : Schema} {path : String} (h : s.check path = .ok ()) : s.WellFormed := by
  induction s using induction_on_children generalizing path with
  | step s ih =>
    rw [check_eq, bind_eq_ok] at h
    obtain ⟨⟨⟩, hnode, hchildren⟩ := h
    refine .intro (checkNode_eq_ok hnode) fun child hchild => ?_
    have hcheck := forM_eq_ok.1 hchildren child hchild
    rw [checkChild, bind_eq_ok] at hcheck
    obtain ⟨step, -, hcheck⟩ := hcheck
    exact ih child hchild hcheck

theorem isSchema_of_isDefective {v : Value} (h : (ofValue v).isDefective = false) : v.isSchema = true := by
  refine isSchema_of_ne_invalid fun w hw => ?_
  rw [hw] at h
  cases h

theorem step_text_succeeds_of_mem_children {s : Schema} {child : Step × Schema}
    (hs : ∀ x ∈ s.data, x.WithinDigitLimit) (hchild : child ∈ s.children) : ∃ step, child.1.text = .ok step := by
  cases s <;> simp only [children, List.not_mem_nil, List.mem_singleton] at hchild
  case array items | record values => subst hchild; exact ⟨_, rfl⟩
  case tuple items =>
    obtain ⟨⟨item, i⟩, -, rfl⟩ := List.mem_map.1 hchild
    exact ⟨_, rfl⟩
  case object properties required =>
    obtain ⟨property, hproperty, rfl⟩ := List.mem_map.1 hchild
    exact Value.plain_succeeds (hs _ (List.mem_cons_of_mem _ (List.mem_map_of_mem hproperty)))

theorem checkNode_eq_error {s : Schema} {path : String} {e : Failure} (h : s.checkNode path = .error e) :
    s.isDefective = true := by
  cases s with
  | invalid v => rfl
  | object properties required =>
    cases hs : (object properties required).isDefective with
    | true => rfl
    | false =>
      simp only [checkNode, hs] at h
      cases h
  | _ => cases h

theorem checkNode_eq_invalidNode {s : Schema} {path place shown : String}
    (hs : ∀ x ∈ s.data, x.WithinDigitLimit)
    (h : s.checkNode path = .error (.defect (.invalidNode place shown))) :
    ∃ w, s = .invalid w ∧ place = path ∧ w.literal = .ok shown := by
  cases s with
  | invalid w =>
    obtain ⟨text, htext⟩ := Value.literal_succeeds (hs w (List.mem_singleton_self w))
    simp only [checkNode, htext, ok_bind, throw_eq_error, Except.error.injEq, Failure.defect.injEq,
      Defect.invalidNode.injEq] at h
    exact ⟨w, rfl, h.1.symm, h.2 ▸ htext⟩
  | object properties required =>
    rw [checkNode] at h
    · split at h <;> cases h
    · simp
  | _ => cases h

theorem checkNode_eq_undeclaredRequired {s : Schema} {path place : String}
    (hs : ∀ x ∈ s.data, x.WithinDigitLimit)
    (h : s.checkNode path = .error (.defect (.undeclaredRequired place))) :
    ∃ properties required, s = .object properties required ∧ place = path := by
  cases s with
  | invalid w =>
    obtain ⟨text, htext⟩ := Value.literal_succeeds (hs w (List.mem_singleton_self w))
    simp only [checkNode, htext, ok_bind] at h
    cases h
  | object properties required =>
    rw [checkNode] at h
    · split at h
      · cases h
        exact ⟨properties, required, rfl, rfl⟩
      · cases h
    · simp
  | _ => cases h

/-- The check of a tree that fails reports the first node that is defective, at the path of the steps to it. -/
theorem firstDefect_of_check {s : Schema} {path : String} {d : Defect}
    (hs : s.Everywhere fun t => ∀ x ∈ t.data, x.WithinDigitLimit)
    (h : s.check path = .error (.defect d)) :
    ∃ location t place, s.FirstDefect location t ∧ Step.path location = .ok place ∧
      t.checkNode (path ++ place) = .error (.defect d) := by
  induction s using induction_on_children generalizing path with
  | step s ih =>
    rw [check_eq, bind_eq_error] at h
    rcases h with hnode | ⟨⟨⟩, hnode, hchildren⟩
    · exact ⟨[], s, "", .here (checkNode_eq_error hnode), rfl, by rwa [String.append_empty]⟩
    · obtain ⟨before, ⟨step, child⟩, after, hsplit, hbefore, hchild⟩ := forM_eq_error.1 hchildren
      have hmem : (step, child) ∈ s.children := by rw [hsplit]; simp
      obtain ⟨text, htext⟩ := step_text_succeeds_of_mem_children hs.here hmem
      simp only [checkChild, htext, ok_bind] at hchild
      obtain ⟨location, t, place, hfirst, hplace, hcheck⟩ := ih _ hmem (hs.child hmem) hchild
      refine ⟨step :: location, t, "/" ++ text ++ place, ?_, ?_, ?_⟩
      · refine .child (checkNode_eq_ok hnode) hsplit (fun c hc => ?_) hfirst
        have hcheck := hbefore c hc
        rw [checkChild, bind_eq_ok] at hcheck
        obtain ⟨_, -, hcheck⟩ := hcheck
        exact wellFormed_of_check hcheck
      · simp only [Step.path, htext, hplace, ok_bind]
        rfl
      · simpa only [String.append_assoc] using hcheck

theorem step_text_eq_error {step : Step} {e : Failure} (h : step.text = .error e) : e = .tooLongToWrite := by
  cases step with
  | index _ | items | values => cases h
  | key k => exact Value.plain_eq_error h

/-- A check fails at a defect, or at a number on the way to one that is too long to be written. -/
theorem check_eq_error {s : Schema} {path : String} {e : Failure} (h : s.check path = .error e) :
    e = .tooLongToWrite ∨ ∃ d, e = .defect d := by
  induction s using induction_on_children generalizing path with
  | step s ih =>
    rw [check_eq, bind_eq_error] at h
    rcases h with h | ⟨⟨⟩, -, h⟩
    · unfold checkNode at h
      split at h
      · rcases bind_eq_error.1 h with h | ⟨shown, -, h⟩
        · exact .inl (Value.literal_eq_error h)
        · cases h
          exact .inr ⟨_, rfl⟩
      · split at h
        · cases h
          exact .inr ⟨_, rfl⟩
        · cases h
    · obtain ⟨before, child, after, hsplit, -, h⟩ := forM_eq_error.1 h
      have hmem : child ∈ s.children := by rw [hsplit]; simp
      rcases bind_eq_error.1 h with h | ⟨step, -, h⟩
      · exact .inl (step_text_eq_error h)
      · exact ih child hmem h

end Schema
end DataShape
