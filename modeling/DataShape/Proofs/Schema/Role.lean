import DataShape.Proofs.Value.Keys

/-! The roles in which a value stands inside a schema. What is done to a schema at every depth goes by them: it
comes to the schemas inside, and to nothing that is given as an option. -/

namespace DataShape

inductive Role where
  | schema
  /-- What stands for the items of an array or tuple: one schema, or a list with one for each place. -/
  | items
  /-- The mapping of the properties that an object declares. -/
  | properties
  /-- Anything that is not looked into, such as an option. -/
  | data
deriving DecidableEq

namespace Role

/-- The role of what stands under a key of a schema. -/
def ofKey : Value → Role
  | .str "items" => .items
  | .str "additionalProperties" | .str "item" => .schema
  | .str "properties" => .properties
  | _ => .data

/-- A schema with a tag holds schemas under a key. -/
def holdsSchemas : Option String → Value → Bool
  | some "array", .str "items" => true
  | some "object", .str "additionalProperties" | some "object", .str "properties" => true
  | some "modified", .str "item" => true
  | _, _ => false

/-- The role of what stands under a key of a schema with a tag: other schemas hold nothing there. -/
def within (tag : Option String) (key : Value) : Role :=
  if holdsSchemas tag key then ofKey key else .data

theorem within_eq_data {key : Value} (h : ofKey key = .data) (tag : Option String) : within tag key = .data := by
  rw [within, h, ite_self]

/-- The role of what stands under a key of a mapping in some role. -/
def below (role : Role) (v key : Value) : Role :=
  match role with
  | .schema | .items => within v.tag? key
  | .properties => .schema
  | .data => .data

def under (role : Role) (key : Value) : Role :=
  match role with
  | .schema | .items => ofKey key
  | .properties => .schema
  | .data => .data

end Role
end DataShape
