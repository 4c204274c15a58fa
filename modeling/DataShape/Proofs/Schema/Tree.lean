import DataShape.Proofs.Outcome
import DataShape.Schema.Check

/-! The tree of a schema: its children in their order, what holds at every node, and the first node that
is not well formed. The check of a schema comes down to these. -/

namespace DataShape

/-- A step from a schema, or from a value, to something in it. -/
inductive Step where
  | index (i : Nat)
  | key (k : Value)
  | items
  | values

namespace Step

/-- A step as it stands in a path. -/
def text : Step → Outcome String
  | .index i => return natText i
  | .key k => k.plain
  | .items => return "items"
  | .values => return "*"

def path : List Step → Outcome String
  | [] => return ""
  | step :: steps => do
    let first ← step.text
    return "/" ++ first ++ (← path steps)

end Step

namespace Schema

def children : Schema → List (Step × Schema)
  | .array items => [(.items, items)]
  | .tuple items => items.zipIdx.map fun (item, i) => (.index i, item)
  | .record values => [(.values, values)]
  | .object properties _ => properties.map fun property => (.key property.key, property.schema)
  | _ => []

/-- The values that a node holds as they are: what is no schema, options, keys and required names. -/
def data : Schema → List Value
  | .invalid v => [v]
  | .number options => NumberRule.all.map options
  | .string options => TextRule.all.map options
  | .object properties required => required :: properties.map (·.key)
  | _ => []

theorem sizeOf_lt_of_mem_children {s : Schema} {child : Step × Schema} (h : child ∈ s.children) :
    sizeOf child.2 < sizeOf s := by
  cases s <;> simp only [children, List.not_mem_nil, List.mem_singleton] at h
  case array items | record values =>
    subst h
    simp
  case tuple items =>
    obtain ⟨⟨item, i⟩, hitem, rfl⟩ := List.mem_map.1 h
    have := List.sizeOf_lt_of_mem (List.fst_mem_of_mem_zipIdx hitem)
    simp only [tuple.sizeOf_spec] at this ⊢
    omega
  case object properties required =>
    obtain ⟨⟨key, isReadonly, schema⟩, hproperty, rfl⟩ := List.mem_map.1 h
    have := List.sizeOf_lt_of_mem hproperty
    simp only [object.sizeOf_spec, Property.mk.sizeOf_spec] at this ⊢
    omega

theorem induction_on_children {P : Schema → Prop} (step : ∀ s, (∀ child ∈ s.children, P child.2) → P s)
    (s : Schema) : P s :=
  step s fun child _ => induction_on_children step child.2
termination_by sizeOf s
decreasing_by exact sizeOf_lt_of_mem_children ‹_›

inductive Everywhere (P : Schema → Prop) : Schema → Prop
  | intro {s : Schema} (here : P s) (inside : ∀ child ∈ s.children, Everywhere P child.2) : Everywhere P s

namespace Everywhere

variable {P : Schema → Prop}

theorem here {s : Schema} (h : s.Everywhere P) : P s := by
  cases h; assumption

theorem child {s : Schema} {child : Step × Schema} (h : s.Everywhere P) (hchild : child ∈ s.children) :
    child.2.Everywhere P := by
  cases h with
  | intro _ inside => exact inside child hchild

end Everywhere

/-- A node that is no schema, or an object that requires something else than declared properties. -/
def isDefective : Schema → Bool
  | .invalid _ => true
  | .object properties required =>
    match requiredNames? required with
    | none => true
    | some names => !declares properties names
  | _ => false

theorem exists_names_of_isDefective {properties : List (Property Schema)} {required : Value}
    (h : (object properties required).isDefective = false) :
    ∃ names, requiredNames? required = some names ∧ declares properties names = true := by
  cases hnames : requiredNames? required with
  | none => simp [isDefective, hnames] at h
  | some names => exact ⟨names, rfl, by simpa [isDefective, hnames] using h⟩

/-- Every node is a schema, and every object requires declared properties only. -/
def WellFormed (s : Schema) : Prop := s.Everywhere fun t => t.isDefective = false

theorem WellFormed.of_array {items : Schema} (h : (array items).WellFormed) : items.WellFormed :=
  h.child (List.mem_singleton_self (Step.items, items))

theorem WellFormed.of_tuple {items : List Schema} (h : (tuple items).WellFormed) {s : Schema} (hs : s ∈ items) :
    s.WellFormed := by
  obtain ⟨i, hi, rfl⟩ := List.mem_iff_getElem.1 hs
  have hchild : (Step.index i, items[i]) ∈ (tuple items).children := by
    refine List.mem_map.2 ⟨(items[i], i), ?_, rfl⟩
    rw [List.mk_mem_zipIdx_iff_getElem?, List.getElem?_eq_getElem hi]
  exact h.child hchild

theorem WellFormed.of_record {values : Schema} (h : (record values).WellFormed) : values.WellFormed :=
  h.child (List.mem_singleton_self (Step.values, values))

theorem WellFormed.of_object {properties : List (Property Schema)} {required : Value}
    (h : (object properties required).WellFormed) {property : Property Schema} (hproperty : property ∈ properties) :
    property.schema.WellFormed := by
  have hchild : (Step.key property.key, property.schema) ∈ (object properties required).children :=
    List.mem_map.2 ⟨property, hproperty, rfl⟩
  exact h.child hchild

/-- What the check of a tree says about one node. -/
def checkNode (path : String) : Schema → Outcome Unit
  | .invalid v => do throw (.defect (.invalidNode path (← v.literal)))
  | s => if s.isDefective then throw (.defect (.undeclaredRequired path)) else return

def checkChild (path : String) (child : Step × Schema) : Outcome Unit := do
  let step ← child.1.text
  child.2.check (path ++ "/" ++ step)

theorem checkElements_eq_forM (path : String) (index : Nat) (items : List Schema) :
    checkElements path index items =
      forM ((items.zipIdx index).map fun (item, i) => (Step.index i, item)) (checkChild path) := by
  induction items generalizing index with
  | nil => rfl
  | cons item items ih =>
    rw [checkElements, ih, List.zipIdx_cons, List.map_cons, List.forM_cons]
    rfl

theorem checkProperties_eq_forM (path : String) (properties : List (Property Schema)) :
    checkProperties path properties =
      forM (properties.map fun property => (Step.key property.key, property.schema)) (checkChild path) := by
  induction properties with
  | nil => rfl
  | cons property properties ih =>
    obtain ⟨key, isReadonly, schema⟩ := property
    rw [checkProperties, ih, List.map_cons, List.forM_cons]
    simp only [checkChild, Step.text, bind_assoc]

private theorem forM_singleton {ε α : Type} (f : α → Except ε Unit) (x : α) : forM [x] f = f x := by
  rw [List.forM_cons]
  cases f x <;> rfl

/-- The check of a tree is that of its root, and then that of its children in their order. -/
theorem check_eq (path : String) (s : Schema) :
    s.check path = (do s.checkNode path; forM s.children (checkChild path)) := by
  cases s with
  | array items =>
    have hpath : path ++ "/items" = path ++ "/" ++ "items" := by rw [String.append_assoc]; rfl
    rw [children, forM_singleton, check, hpath]
    rfl
  | record values =>
    have hpath : path ++ "/*" = path ++ "/" ++ "*" := by rw [String.append_assoc]; rfl
    rw [children, forM_singleton, check, hpath]
    rfl
  | tuple items =>
    rw [children, check, checkElements_eq_forM]
    rfl
  | object properties required =>
    rw [children, check, checkProperties_eq_forM, checkNode, isDefective]
    · cases requiredNames? required with
      | none => rfl
      | some names => cases hdeclares : declares properties names <;> simp [hdeclares]
    · simp
  | invalid v =>
    rw [check, checkNode]
    cases v.literal <;> rfl
  | _ => rfl

end Schema
end DataShape
