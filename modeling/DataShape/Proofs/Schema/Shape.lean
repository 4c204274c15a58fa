import DataShape.Proofs.Schema.Tree

/-! The shape of a schema: its variants, the names of its properties and their marks. Constraints have no
part in it, nor have wrappers, but for the mark that a declared property is not to be changed. -/

namespace DataShape

/-- A declared property, with what its type shows of it. -/
structure PropertyShape (α : Type) where
  name : String
  isRequired : Bool
  isReadonly : Bool
  shape : α

inductive Shape where
  | any | boolean | null | number | string | undefined
  | array (items : Shape)
  | tuple (items : List Shape)
  | record (values : Shape)
  | object (properties : List (PropertyShape Shape))

namespace Shape

def children : Shape → List Shape
  | .array items => [items]
  | .tuple items => items
  | .record values => [values]
  | .object properties => properties.map (·.shape)
  | _ => []

def names : Shape → List String
  | .object properties => properties.map (·.name)
  | _ => []

theorem sizeOf_lt_of_mem_children {σ τ : Shape} (h : τ ∈ σ.children) : sizeOf τ < sizeOf σ := by
  cases σ <;> simp only [children, List.not_mem_nil, List.mem_singleton] at h
  case array items | record values =>
    subst h
    simp
  case tuple items =>
    have := List.sizeOf_lt_of_mem h
    simp only [tuple.sizeOf_spec]
    omega
  case object properties =>
    obtain ⟨⟨name, isRequired, isReadonly, shape⟩, hproperty, rfl⟩ := List.mem_map.1 h
    have := List.sizeOf_lt_of_mem hproperty
    simp only [object.sizeOf_spec, PropertyShape.mk.sizeOf_spec] at this ⊢
    omega

theorem induction_on_children {P : Shape → Prop} (step : ∀ σ : Shape, (∀ τ ∈ σ.children, P τ) → P σ)
    (σ : Shape) : P σ :=
  step σ fun τ _ => induction_on_children step τ
termination_by sizeOf σ
decreasing_by exact sizeOf_lt_of_mem_children ‹_›

inductive NamesAll (P : String → Prop) : Shape → Prop
  | intro {σ : Shape} (here : ∀ name ∈ σ.names, P name) (inside : ∀ τ ∈ σ.children, NamesAll P τ) : NamesAll P σ

namespace NamesAll

variable {P : String → Prop} {σ τ : Shape}

theorem here (h : σ.NamesAll P) : ∀ name ∈ σ.names, P name := by
  cases h; assumption

theorem child (h : σ.NamesAll P) (hτ : τ ∈ σ.children) : τ.NamesAll P := by
  cases h with
  | intro _ inside => exact inside τ hτ

theorem property {properties : List (PropertyShape Shape)} (h : (object properties).NamesAll P)
    {p : PropertyShape Shape} (hp : p ∈ properties) : P p.name ∧ p.shape.NamesAll P :=
  ⟨h.here _ (List.mem_map_of_mem hp), h.child (List.mem_map_of_mem hp)⟩

end NamesAll

end Shape

namespace Schema

mutual

/-- The shape of a schema, if it is one in all places, with texts as the keys of its properties. -/
def shape? : Schema → Option Shape
  | .invalid _ => none
  | .any => some .any
  | .boolean => some .boolean
  | .null => some .null
  | .number _ => some .number
  | .string _ => some .string
  | .undefined => some .undefined
  | .array items => items.shape?.map .array
  | .tuple items => (shapes? items).map .tuple
  | .record values => values.shape?.map .record
  | .object properties required => do
    let names ← requiredNames? required
    return .object (← propertyShapes? names properties)

def shapes? : List Schema → Option (List Shape)
  | [] => some []
  | schema :: schemas => do
    let first ← schema.shape?
    return first :: (← shapes? schemas)

def propertyShapes? (required : List String) : List (Property Schema) → Option (List (PropertyShape Shape))
  | [] => some []
  | ⟨key, isReadonly, schema⟩ :: properties =>
    match key with
    | .str name => do
      let first ← schema.shape?
      return ⟨name, required.contains name, isReadonly, first⟩ :: (← propertyShapes? required properties)
    | _ => none

end
end Schema
end DataShape
