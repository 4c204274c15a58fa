import DataShape.Proofs.Validation.Parts

/-! Schemas that are alike: validation looks up the same in both, and so says the same of every value. Marks of
properties, the order of the declarations and what stands where a schema is missing make no difference. -/

namespace DataShape
namespace Schema

/-- Schemas of one variant with the same options, and with schemas that are alike in the same places and under the
same keys. -/
inductive Alike : Schema → Schema → Prop
  | refl (s : Schema) : Alike s s
  | invalid (v w : Value) : Alike (.invalid v) (.invalid w)
  | array {s t : Schema} (items : Alike s t) : Alike (.array s) (.array t)
  | tuple {ss ts : List Schema} (hlength : ss.length = ts.length)
      (places : ∀ (i : Nat) (s t : Schema), ss[i]? = some s → ts[i]? = some t → Alike s t) :
      Alike (.tuple ss) (.tuple ts)
  | record {s t : Schema} (values : Alike s t) : Alike (.record s) (.record t)
  | object {ps qs : List (Property Schema)} (required : Value)
      (declared : ∀ key, (propertyFor? ps key).isSome = (propertyFor? qs key).isSome)
      (schemas : ∀ (key : Value) (p q : Property Schema), propertyFor? ps key = some p →
        propertyFor? qs key = some q → Alike p.schema q.schema) :
      Alike (.object ps required) (.object qs required)

/-- Nothing but what is wrong with a value itself and the issues of its parts counts. -/
theorem issues_congr {s t : Schema} {v : Value} (hown : s.ownCauses v = t.ownCauses v)
    (hparts : (s.parts v).map Part.issues = (t.parts v).map Part.issues) : s.issues v = t.issues v := by
  have hmapM (parts : List Part) : parts.mapM Part.issues = (parts.map Part.issues).mapM id := by
    rw [List.mapM_map]
    rfl
  rw [issues_eq, issues_eq, hown, partIssues, partIssues, hmapM, hmapM, hparts]

theorem issues_elementParts {s t : Schema} (h : ∀ v, s.issues v = t.issues v) (elements : List Value) :
    (elementParts s elements 0).map Part.issues = (elementParts t elements 0).map Part.issues := by
  simp only [elementParts, List.map_map]
  exact List.map_congr_left fun place _ => by simp only [Function.comp, Part.issues, h]

theorem issues_placeParts {ss ts : List Schema} (hlength : ss.length = ts.length)
    (h : ∀ (i : Nat) (s t : Schema), ss[i]? = some s → ts[i]? = some t → ∀ v, s.issues v = t.issues v)
    (elements : List Value) :
    (placeParts ss elements 0).map Part.issues = (placeParts ts elements 0).map Part.issues := by
  suffices hplaces : ∀ index, (placeParts ss elements index).map Part.issues =
      (placeParts ts elements index).map Part.issues from hplaces 0
  induction ss generalizing ts elements with
  | nil =>
    obtain rfl := List.eq_nil_of_length_eq_zero hlength.symm
    exact fun _ => rfl
  | cons s ss ih =>
    cases ts with
    | nil => cases hlength
    | cons t ts =>
      cases elements with
      | nil => exact fun _ => rfl
      | cons v vs =>
        have hrest := ih (Nat.succ.inj hlength) (fun i => h (i + 1)) vs
        simp only [placeParts] at hrest ⊢
        intro index
        simp only [List.zip_cons_cons, List.zipIdx_cons, List.map_cons, Part.issues, h 0 s t rfl rfl v, hrest]

theorem issues_entryParts {s t : Schema} (h : ∀ v, s.issues v = t.issues v) (entries : Entries) :
    (entryParts s entries).map Part.issues = (entryParts t entries).map Part.issues := by
  simp only [entryParts, List.map_map]
  exact List.map_congr_left fun entry _ => by simp only [Function.comp, Part.issues, h]

theorem issues_propertyParts {ps qs : List (Property Schema)}
    (hdeclared : ∀ key, (propertyFor? ps key).isSome = (propertyFor? qs key).isSome)
    (h : ∀ (key : Value) (p q : Property Schema), propertyFor? ps key = some p → propertyFor? qs key = some q →
      ∀ v, p.schema.issues v = q.schema.issues v) (entries : Entries) :
    (propertyParts ps entries).map Part.issues = (propertyParts qs entries).map Part.issues := by
  simp only [propertyParts, List.map_filterMap, Option.map_map]
  refine List.filterMap_congr fun entry _ => ?_
  cases hp : propertyFor? ps entry.1 with
  | none =>
    have hq : propertyFor? qs entry.1 = none := by simpa [hp] using (hdeclared entry.1).symm
    rw [hq]
  | some p =>
    obtain ⟨q, hq⟩ : ∃ q, propertyFor? qs entry.1 = some q :=
      Option.isSome_iff_exists.1 ((hdeclared entry.1).symm.trans (by rw [hp]; rfl))
    simp only [hq, Option.map_some, Function.comp, Part.issues, h entry.1 p q hp hq]

theorem any_sameKey_eq_isSome (properties : List (Property Schema)) (key : Value) :
    properties.any (·.key.sameKey key) = (propertyFor? properties key).isSome :=
  List.isSome_find?.symm

theorem keyCauses_congr {ps qs : List (Property Schema)}
    (hdeclared : ∀ key, (propertyFor? ps key).isSome = (propertyFor? qs key).isSome) (names : List String)
    (entries : Entries) : keyCauses ps names entries = keyCauses qs names entries := by
  simp only [keyCauses, unexpectedKeys, any_sameKey_eq_isSome, hdeclared]

/-- Validation says the same of a value under schemas that are alike. -/
theorem Alike.issues_eq {s t : Schema} (h : s.Alike t) (v : Value) : s.issues v = t.issues v := by
  induction h generalizing v with
  | refl s => rfl
  | invalid w w' => exact issues_congr rfl rfl
  | array _ ih =>
    refine issues_congr rfl ?_
    cases hv : v.elements? <;> simp [parts, hv, issues_elementParts ih]
  | tuple hlength _ ih =>
    refine issues_congr (by simp only [ownCauses, hlength]) ?_
    cases hv : v.elements? with
    | none => simp [parts, hv]
    | some elements =>
      simp only [parts, hv, hlength, Option.map_some, Option.getD_some]
      split
      · exact issues_placeParts hlength ih elements
      · rfl
  | record _ ih =>
    refine issues_congr rfl ?_
    cases hv : v.entries? <;> simp [parts, hv, issues_entryParts ih]
  | object required hdeclared _ ih =>
    refine issues_congr (by simp only [ownCauses, keyCauses_congr hdeclared]) ?_
    cases hv : v.entries? with
    | none => simp [parts, hv]
    | some entries =>
      simp only [parts, hv, Option.map_some, Option.getD_some]
      split
      · exact issues_propertyParts hdeclared ih entries
      · rfl

end Schema
end DataShape
