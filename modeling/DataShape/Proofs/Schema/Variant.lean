import DataShape.Proofs.Schema.Nodes
import DataShape.Schema.Expression
import DataShape.Validation.Basic

/-! The variants divide the schemas among them. Ten tests that know nothing of each other hold of no two variants at
once, and one of them holds of every schema; what the variant is read from is then there. So a walk that tries them one
after the other never comes to the end of them, and the order in which it tries them does not matter. -/

namespace DataShape

theorem findM?_eq_some {α ε : Type} [DecidableEq α] {test : α → Except ε Bool} {item : α} {items : List α}
    (htest : ∀ x, test x = .ok (decide (x = item))) (hitem : item ∈ items) :
    items.findM? test = .ok (some item) := by
  induction items with
  | nil => cases hitem
  | cons x xs ih =>
    rw [List.findM?, htest, ok_bind]
    by_cases hx : x = item
    · simp [hx]
    · have hrest : item ∈ xs := by
        rcases List.mem_cons.1 hitem with h | h
        · exact absurd h.symm hx
        · exact h
      simp [hx, ih hrest]

namespace Variant

open Schema (ofValue ofNode?)

/-- The schema that a node of the variant is read as. -/
def read (node : Value) : Variant → Schema
  | .any => .any
  | .boolean => .boolean
  | .null => .null
  | .number => .number fun rule => node.fieldOrNull rule.key
  | .string => .string fun rule => node.fieldOrNull rule.key
  | .undefined => .undefined
  | .array => .array (ofValue (node.fieldOrNull "items"))
  | .tuple => .tuple (((node.fieldOrNull "items").elements?.getD []).map ofValue)
  | .record => .record (ofValue (node.fieldOrNull "additionalProperties"))
  | .object =>
    .object (((node.fieldOrNull "properties").entries?.getD []).map Property.ofEntry) (node.fieldOrNull "required")

/-- What a node of the variant is read from is there, and is of the kind that it is read as. -/
def Payload (node : Value) : Variant → Prop
  | .array => ∃ items, node.field? "items" = some items ∧ items.isSequence = false
  | .tuple => ∃ items, node.field? "items" = some items ∧ items.isSequence = true
  | .record => ∃ values, node.field? "additionalProperties" = some values ∧ values.isNull = false
  | .object => (∃ declared, node.field? "properties" = some declared ∧ declared.isMapping = true) ∧
      (node.fieldOrNull "additionalProperties").isNull = true
  | _ => True

theorem mem_all (variant : Variant) : variant ∈ all := by cases variant <;> decide

/-- No node is of two variants: their tags differ, or what tells them apart. -/
theorem holds_unique {a b : Variant} {node : Value} (ha : a.holds node = true) (hb : b.holds node = true) : a = b := by
  rw [holds_iff] at ha hb
  have htag : a.tag = b.tag := Option.some.inj (ha.1.symm.trans hb.1)
  have ha := ha.2
  have hb := hb.2
  cases a <;> cases b <;> first | rfl | exact absurd htag (by decide) | simp_all [fits]

theorem fieldOrNull_of_field? {node x : Value} {name : String} (h : node.field? name = some x) :
    node.fieldOrNull name = x := by
  rw [Value.fieldOrNull, h, Option.getD_some]

/-- A node that is read as a schema is of some variant, and is read as that variant is. -/
theorem exists_holds {node : Value} {s : Schema} (hnode : node.isModified = false) (h : ofNode? node = some s) :
    ∃ variant : Variant, variant.holds node = true ∧ variant.Payload node ∧ s = variant.read node := by
  have found (variant : Variant) (htag : node.tag? = some variant.tag) (hfits : variant.fits node = true)
      (hpayload : variant.Payload node) (hread : s = variant.read node) :
      ∃ variant : Variant, variant.holds node = true ∧ variant.Payload node ∧ s = variant.read node :=
    ⟨variant, holds_iff.2 ⟨htag, hfits⟩, hpayload, hread⟩
  unfold ofNode? at h
  split at h
  case h_1 htag => exact found .any htag rfl trivial (Option.some.inj h).symm
  case h_2 htag => exact found .boolean htag rfl trivial (Option.some.inj h).symm
  case h_3 htag => exact found .null htag rfl trivial (Option.some.inj h).symm
  case h_4 htag => exact found .number htag rfl trivial (Option.some.inj h).symm
  case h_5 htag => exact found .string htag rfl trivial (Option.some.inj h).symm
  case h_6 htag => exact found .undefined htag rfl trivial (Option.some.inj h).symm
  case h_7 htag =>
    obtain ⟨items, hitems, hs⟩ := Option.map_eq_some_iff.1 h
    have hfield := fieldOrNull_of_field? hitems
    cases helements : items.elements? with
    | some elements =>
      rw [helements] at hs
      have hsequence : items.isSequence = true := by rw [Value.isSequence, helements]; rfl
      refine found .tuple htag ?_ ⟨items, hitems, hsequence⟩ ?_
      · rw [fits, hfield, hsequence]
      · rw [read, hfield, helements, Option.getD_some]
        exact hs.symm
    | none =>
      rw [helements] at hs
      have hsequence : items.isSequence = false := by rw [Value.isSequence, helements]; rfl
      refine found .array htag ?_ ⟨items, hitems, hsequence⟩ ?_
      · rw [fits, hfield, hsequence, Bool.not_false]
      · rw [read, hfield]
        exact hs.symm
  case h_8 htag =>
    split at h
    · next values hvalues =>
      obtain ⟨hfield?, hnull⟩ := Option.filter_eq_some_iff.1 hvalues
      have hfield := fieldOrNull_of_field? hfield?
      rw [Bool.not_eq_true'] at hnull
      refine found .record htag ?_ ⟨values, hfield?, hnull⟩ ?_
      · rw [fits, hfield, hnull, Bool.not_false]
      · rw [read, hfield]
        exact (Option.some.inj h).symm
    · next hvalues =>
      obtain ⟨entries, hbind, rfl⟩ := Option.map_eq_some_iff.1 h
      obtain ⟨declared, hdeclared, hentries⟩ := Option.bind_eq_some_iff.1 hbind
      have hmapping : declared.isMapping = true := by rw [Value.isMapping, hentries]; rfl
      have hnull := Value.isNull_of_filter_eq_none hvalues
      refine found .object htag hnull ⟨⟨declared, hdeclared, hmapping⟩, hnull⟩ ?_
      rw [read, fieldOrNull_of_field? hdeclared, hentries, Option.getD_some]
  case h_9 htag =>
    rw [Value.isModified, htag] at hnode
    cases hnode
  case h_10 => cases h

end Variant

namespace Value

theorem isMapping_of_tag? {v : Value} {tag : String} (h : v.tag? = some tag) : v.isMapping = true := by
  rw [isMapping]
  cases hv : v.entries? with
  | some entries => rfl
  | none => simp [tag?, field?, hv] at h

theorem unwrap_of_not_isModified {node : Value} (h : node.isModified = false) : node.unwrap = .ok node := by
  rw [unwrap, h, if_neg Bool.false_ne_true]

/-- Only the test of its variant holds of a value. -/
theorem isOfVariant_eq {x node : Value} {variant : Variant} (hunwrap : x.unwrap = .ok node)
    (hholds : variant.holds node = true) (other : Variant) : x.isOfVariant other = .ok (decide (other = variant)) := by
  rw [isOfVariant, hunwrap, ok_bind, pure_eq_ok]
  by_cases hother : other = variant
  · rw [hother, hholds, decide_eq_true rfl]
  · have hnot : other.holds node = false := by
      rw [← Bool.not_eq_true]
      intro h
      exact hother (Variant.holds_unique h hholds)
    rw [hnot, decide_eq_false hother]

/-- Takes a value, without its wrapper, to the branch of the first variant, in the order in which they are tried, whose
test holds of it, and to what stands behind the last branch if none does. -/
def byVariant {α : Type} (x : Value) (tried : List Variant) (branch : Variant → Value → Outcome α)
    (behind : Outcome α) : Outcome α := do
  let node ← x.unwrap
  match ← tried.findM? node.isOfVariant with
  | some variant => branch variant node
  | none => behind

theorem byVariant_eq {α : Type} {x node : Value} {variant : Variant} (hunwrap : x.unwrap = .ok node)
    (hnode : node.isModified = false) (hholds : variant.holds node = true) {tried : List Variant}
    (htried : variant ∈ tried) (branch : Variant → Value → Outcome α) (behind : Outcome α) :
    x.byVariant tried branch behind = branch variant node := by
  have hfound : tried.findM? node.isOfVariant = .ok (some variant) :=
    findM?_eq_some (isOfVariant_eq (unwrap_of_not_isModified hnode) hholds) htried
  rw [byVariant, hunwrap, ok_bind, hfound, ok_bind]

end Value

/-- Every schema is of one variant: one test holds of it, and the same one of what its wrapper holds, which is a schema
without a wrapper and has what the variant is read from. To validate a value and to write the schema out is to take the
branch of that variant, in whatever order the variants are tried and whatever stands behind the last of them. -/
theorem schema_of_one_variant {x : Value} (h : x.isSchema = true) :
    ∃ node, x.unwrap = .ok node ∧ node.isMapping = true ∧ node.isModified = false ∧ node.isSchema = true ∧
      ∃ variant : Variant,
        (∀ other, x.isOfVariant other = .ok (decide (other = variant)) ∧
          node.isOfVariant other = .ok (decide (other = variant))) ∧
        variant.Payload node ∧
        ∀ tried : List Variant, (∀ other, other ∈ tried) →
          (∀ v path behind, validate x v path =
            x.byVariant tried (fun taken node => do return (← (taken.read node).issues v).map (·.under path)) behind) ∧
          ∀ behind, typeExpression x = x.byVariant tried (fun taken node => (taken.read node).expression) behind := by
  obtain ⟨node, hunwrap, hnode, hof⟩ := Schema.ofValue_cases h
  obtain ⟨variant, hholds, hpayload, hread⟩ := Variant.exists_holds hnode hof
  have hmapping : node.isMapping = true := Value.isMapping_of_tag? (Variant.holds_iff.1 hholds).1
  have hschema : node.isSchema = true := by
    rw [Value.isSchema, Schema.ofValue_of_ofNode? hof]
    exact h
  refine ⟨node, hunwrap, hmapping, hnode, hschema, variant, fun other => ⟨?_, ?_⟩, hpayload,
    fun tried htried => ⟨?_, ?_⟩⟩
  · exact Value.isOfVariant_eq hunwrap hholds other
  · exact Value.isOfVariant_eq (Value.unwrap_of_not_isModified hnode) hholds other
  · intro v path behind
    rw [Value.byVariant_eq hunwrap hnode hholds (htried variant), ← hread, validate]
  · intro behind
    rw [Value.byVariant_eq hunwrap hnode hholds (htried variant), ← hread, typeExpression]

/-- An object with a size in a wrapper, given no schema for further keys. -/
def sizeInWrapper : Value := .ofFields [("type", .str "modified"), ("optional", .bool true),
  ("item", .ofFields [("type", .str "object"), ("additionalProperties", .null),
    ("properties", .ofFields [("size", .ofFields [("type", .str "number")])])])]

theorem size_in_wrapper_of_one_variant :
    sizeInWrapper.isSchema = true ∧ (∀ other, sizeInWrapper.isOfVariant other = .ok (decide (other = .object))) ∧
    ∀ behind, sizeInWrapper.byVariant Variant.all.reverse (fun taken node => (taken.read node).expression) behind =
      .ok "\x7bsize?: number\x7d" := by
  refine ⟨rfl, ?_⟩
  obtain ⟨node, -, -, -, -, variant, hone, -, hwalks⟩ := @schema_of_one_variant sizeInWrapper rfl
  have hobject : variant = .object := by
    have hsame : decide (Variant.object = variant) = true := Except.ok.inj ((hone .object).1.symm.trans rfl)
    exact (of_decide_eq_true hsame).symm
  subst hobject
  have htried (other : Variant) : other ∈ Variant.all.reverse := List.mem_reverse.2 other.mem_all
  refine ⟨fun other => (hone other).1, fun behind => ?_⟩
  rw [← (hwalks Variant.all.reverse htried).2 behind]
  rfl

end DataShape
