import DataShape.Schema.Basic

/-! What a value is made of, keys included, and what holds everywhere inside a value. Facts about all
values are proved from their parts upwards. -/

namespace DataShape
namespace Value

/-- What a value holds directly: its elements, or its keys and what stands under them. -/
def parts : Value → List Value
  | .list items | .tuple items | .set items => items
  | .dict entries | .view entries => entries.flatMap fun entry => [entry.1, entry.2]
  | _ => []

theorem entries?_of_elements? {v : Value} {elements : List Value} (h : v.elements? = some elements) :
    v.entries? = none := by
  cases v <;> first | rfl | cases h

theorem elements?_of_entries? {v : Value} {entries : Entries} (h : v.entries? = some entries) :
    v.elements? = none := by
  cases v <;> first | rfl | cases h

theorem mem_entry_parts {entries : Entries} {x : Value} :
    x ∈ entries.flatMap (fun entry => [entry.1, entry.2]) ↔ ∃ entry ∈ entries, x = entry.1 ∨ x = entry.2 := by
  simp [List.mem_flatMap]

theorem sizeOf_entry_lt {entries : Entries} {entry : Value × Value} (h : entry ∈ entries) :
    sizeOf entry.1 < sizeOf entries ∧ sizeOf entry.2 < sizeOf entries := by
  have hlt := List.sizeOf_lt_of_mem h
  obtain ⟨key, v⟩ := entry
  simp only [Prod.mk.sizeOf_spec] at hlt
  constructor <;> simp only <;> omega

theorem sizeOf_lt_of_mem_parts {x v : Value} (h : x ∈ v.parts) : sizeOf x < sizeOf v := by
  cases v <;> simp only [parts, List.not_mem_nil, mem_entry_parts] at h
  case list items | tuple items | set items =>
    have := List.sizeOf_lt_of_mem h
    simp only [list.sizeOf_spec, tuple.sizeOf_spec, set.sizeOf_spec]
    omega
  case dict entries | view entries =>
    obtain ⟨entry, hentry, rfl | rfl⟩ := h
    all_goals
      have := sizeOf_entry_lt hentry
      simp only [dict.sizeOf_spec, view.sizeOf_spec]
      omega

theorem mem_parts_of_elements {v x : Value} {elements : List Value} (hv : v.elements? = some elements)
    (hx : x ∈ elements) : x ∈ v.parts := by
  cases v <;> simp only [elements?, Option.some.injEq, reduceCtorEq] at hv <;> subst hv <;> exact hx

theorem mem_parts_of_entries {v : Value} {entries : Entries} {entry : Value × Value}
    (hv : v.entries? = some entries) (hentry : entry ∈ entries) : entry.1 ∈ v.parts ∧ entry.2 ∈ v.parts := by
  cases v <;> simp only [entries?, Option.some.injEq, reduceCtorEq] at hv <;> subst hv <;>
    exact ⟨mem_entry_parts.2 ⟨entry, hentry, .inl rfl⟩, mem_entry_parts.2 ⟨entry, hentry, .inr rfl⟩⟩

theorem mem_parts_of_field {v x : Value} {name : String} (h : v.field? name = some x) : x ∈ v.parts := by
  obtain ⟨entries, hv, h⟩ := Option.bind_eq_some_iff.1 h
  obtain ⟨entry, hentry, rfl⟩ := Option.map_eq_some_iff.1 h
  exact (mem_parts_of_entries hv (List.mem_of_find?_eq_some hentry)).2

theorem sizeOf_lt_of_element {v x : Value} {elements : List Value} (hv : v.elements? = some elements)
    (hx : x ∈ elements) : sizeOf x < sizeOf v :=
  sizeOf_lt_of_mem_parts (mem_parts_of_elements hv hx)

theorem sizeOf_lt_of_entry {v : Value} {entries : Entries} {entry : Value × Value} (hv : v.entries? = some entries)
    (hentry : entry ∈ entries) : sizeOf entry.2 < sizeOf v :=
  sizeOf_lt_of_mem_parts (mem_parts_of_entries hv hentry).2

theorem sizeOf_lt_of_field {v x : Value} {name : String} (h : v.field? name = some x) : sizeOf x < sizeOf v :=
  sizeOf_lt_of_mem_parts (mem_parts_of_field h)

theorem induction_on_parts {P : Value → Prop} (step : ∀ v, (∀ x ∈ v.parts, P x) → P v) (v : Value) : P v :=
  step v fun x _ => induction_on_parts step x
termination_by sizeOf v
decreasing_by exact sizeOf_lt_of_mem_parts ‹_›

inductive Everywhere (P : Value → Prop) : Value → Prop
  | intro {v : Value} (here : P v) (inside : ∀ x ∈ v.parts, Everywhere P x) : Everywhere P v

namespace Everywhere

variable {P : Value → Prop}

theorem here {v : Value} (h : v.Everywhere P) : P v := by
  cases h; assumption

theorem part {v x : Value} (h : v.Everywhere P) (hx : x ∈ v.parts) : x.Everywhere P := by
  cases h with
  | intro _ inside => exact inside x hx

theorem element {v x : Value} {elements : List Value} (h : v.Everywhere P)
    (hv : v.elements? = some elements) (hx : x ∈ elements) : x.Everywhere P :=
  h.part (mem_parts_of_elements hv hx)

theorem entry {v : Value} {entries : Entries} {entry : Value × Value} (h : v.Everywhere P)
    (hv : v.entries? = some entries) (hentry : entry ∈ entries) :
    entry.1.Everywhere P ∧ entry.2.Everywhere P :=
  ⟨h.part (mem_parts_of_entries hv hentry).1, h.part (mem_parts_of_entries hv hentry).2⟩

theorem field {v x : Value} {name : String} (h : v.Everywhere P) (hv : v.field? name = some x) :
    x.Everywhere P :=
  h.part (mem_parts_of_field hv)

theorem fieldOrNull {v : Value} (h : v.Everywhere P) (hnull : P .null) (name : String) :
    (v.fieldOrNull name).Everywhere P := by
  unfold Value.fieldOrNull
  cases hv : v.field? name with
  | some x => exact h.field hv
  | none => exact .intro hnull fun x hx => absurd hx List.not_mem_nil

end Everywhere

variable {P : Value → Prop}

theorem everywhere_iff {v : Value} : v.Everywhere P ↔ P v ∧ ∀ x ∈ v.parts, x.Everywhere P :=
  ⟨fun h => ⟨h.here, fun _ => h.part⟩, fun h => .intro h.1 h.2⟩

@[simp] theorem everywhere_null : null.Everywhere P ↔ P .null := by simp [everywhere_iff (v := null), parts]

@[simp] theorem everywhere_bool {b : Bool} : (bool b).Everywhere P ↔ P (.bool b) := by
  simp [everywhere_iff (v := bool b), parts]

@[simp] theorem everywhere_float {x : Binary64} : (float x).Everywhere P ↔ P (.float x) := by
  simp [everywhere_iff (v := float x), parts]

@[simp] theorem everywhere_int {n : Int} : (int n).Everywhere P ↔ P (.int n) := by
  simp [everywhere_iff (v := int n), parts]

@[simp] theorem everywhere_fraction {r : Rat} : (fraction r).Everywhere P ↔ P (.fraction r) := by
  simp [everywhere_iff (v := fraction r), parts]

@[simp] theorem everywhere_str {s : String} : (str s).Everywhere P ↔ P (.str s) := by
  simp [everywhere_iff (v := str s), parts]

@[simp] theorem everywhere_list {items : List Value} :
    (list items).Everywhere P ↔ P (.list items) ∧ ∀ x ∈ items, x.Everywhere P := everywhere_iff

@[simp] theorem everywhere_tuple {items : List Value} :
    (tuple items).Everywhere P ↔ P (.tuple items) ∧ ∀ x ∈ items, x.Everywhere P := everywhere_iff

@[simp] theorem everywhere_dict {entries : Entries} :
    (dict entries).Everywhere P ↔
      P (.dict entries) ∧ ∀ entry ∈ entries, entry.1.Everywhere P ∧ entry.2.Everywhere P := by
  rw [everywhere_iff]
  refine and_congr_right fun _ => ⟨fun h entry hentry => ?_, ?_⟩
  · have hmem := mem_parts_of_entries (v := dict entries) rfl hentry
    exact ⟨h _ hmem.1, h _ hmem.2⟩
  · intro h x hx
    obtain ⟨entry, hentry, rfl | rfl⟩ := mem_entry_parts.1 hx
    · exact (h entry hentry).1
    · exact (h entry hentry).2

end Value
end DataShape
