import DataShape.Value.Key

/-! Schemas: what a value is allowed to be. A schema is itself given as a value, so a tree of schemas
may have places where something stands that is no schema; `Schema.ofValue` keeps it there, for each
walk over the tree to report in its own way. Wrappers that mark a property as optional or readonly
do not take part in matching, and are looked through when a schema is read. -/

namespace DataShape

/-- The constraints that a schema of numbers can have, in the order in which they are checked. -/
inductive NumberRule where
  | multipleOf | maximum | exclusiveMaximum | minimum | exclusiveMinimum
deriving DecidableEq, Repr

namespace NumberRule

def all : List NumberRule := [.multipleOf, .maximum, .exclusiveMaximum, .minimum, .exclusiveMinimum]

def key : NumberRule → String
  | .multipleOf => "multipleOf"
  | .maximum => "maximum"
  | .exclusiveMaximum => "exclusiveMaximum"
  | .minimum => "minimum"
  | .exclusiveMinimum => "exclusiveMinimum"

theorem mem_all (rule : NumberRule) : rule ∈ all := by cases rule <;> decide

theorem key_injective {a b : NumberRule} (h : a.key = b.key) : a = b := by
  cases a <;> cases b <;> first | rfl | exact absurd h (by decide)

theorem key_ne_type (rule : NumberRule) : rule.key ≠ "type" := by cases rule <;> decide

end NumberRule

/-- The constraints that a schema of texts can have, in the order in which they are checked. -/
inductive TextRule where
  | maxLength | minLength | pattern
deriving DecidableEq, Repr

namespace TextRule

def all : List TextRule := [.maxLength, .minLength, .pattern]

def key : TextRule → String
  | .maxLength => "maxLength"
  | .minLength => "minLength"
  | .pattern => "pattern"

theorem mem_all (rule : TextRule) : rule ∈ all := by cases rule <;> decide

theorem key_injective {a b : TextRule} (h : a.key = b.key) : a = b := by
  cases a <;> cases b <;> first | rfl | exact absurd h (by decide)

theorem key_ne_type (rule : TextRule) : rule.key ≠ "type" := by cases rule <;> decide

end TextRule

structure Property (α : Type) where
  key : Value
  isReadonly : Bool
  schema : α

inductive Schema where
  | invalid (v : Value)
  | any
  | boolean
  | null
  /-- Numbers, with what is given for each constraint; `null` is no constraint. -/
  | number (options : NumberRule → Value)
  /-- Texts, with what is given for each constraint; `null` is no constraint. -/
  | string (options : TextRule → Value)
  | undefined
  | array (items : Schema)
  | tuple (items : List Schema)
  | record (values : Schema)
  /-- Mappings with declared keys; `required` is what is given as the list of those that must be there. -/
  | object (properties : List (Property Schema)) (required : Value)

namespace Value

def tag? (v : Value) : Option String :=
  match v.field? "type" with
  | some (.str tag) => some tag
  | _ => none

def fieldOrNull (v : Value) (name : String) : Value := (v.field? name).getD .null

def isModified (v : Value) : Bool := v.tag? == some "modified"

/-- Has a flag that is set; a flag that is only like `true` is not. -/
def isFlagged (v : Value) (flag : String) : Bool :=
  match v.field? flag with
  | some (.bool true) => true
  | _ => false

/-- A wrapper that marks a property as one that may be left out. -/
def isOptional (v : Value) : Bool := v.isModified && v.isFlagged "optional"

/-- A wrapper that marks a property as one that is not to be changed. -/
def isReadonly (v : Value) : Bool := v.isModified && v.isFlagged "readonly"

end Value

namespace Schema

/-- A value in each of the roles that a part of a schema can have. -/
structure Reading where
  raw : Value
  schema : Schema
  /-- The elements of a list, as schemas. -/
  elements? : Option (List Schema)
  /-- The entries of a mapping, as declared properties. -/
  properties? : Option (List (Property Schema))

def part? (parts : List (Value × Reading)) (name : String) : Option Reading :=
  (parts.find? fun entry => entry.1.sameKey (.str name)).map (·.2)

def option (parts : List (Value × Reading)) (name : String) : Value :=
  ((part? parts name).map Reading.raw).getD .null

/-- The schema that a mapping with these parts is, if it is one. -/
def ofParts? (parts : List (Value × Reading)) : Option Schema :=
  match option parts "type" with
  | .str "any" => some .any
  | .str "boolean" => some .boolean
  | .str "null" => some .null
  | .str "number" => some (.number fun rule => option parts rule.key)
  | .str "string" => some (.string fun rule => option parts rule.key)
  | .str "undefined" => some .undefined
  | .str "array" => (part? parts "items").map fun items =>
    match items.elements? with
    | some elements => .tuple elements
    | none => .array items.schema
  | .str "object" =>
    match (part? parts "additionalProperties").filter fun values => !values.raw.isNull with
    | some values => some (.record values.schema)
    | none => do
      let declared ← part? parts "properties"
      return .object (← declared.properties?) (option parts "required")
  | .str "modified" => do
    let item ← part? parts "item"
    if item.raw.isModified then none
    match item.schema with
    | .invalid _ => none
    | schema => some schema
  | _ => none

def readingOfParts (v : Value) (parts : List (Value × Reading)) : Reading where
  raw := v
  schema := (ofParts? parts).getD (.invalid v)
  elements? := none
  properties? := some (parts.map fun entry => ⟨entry.1, entry.2.raw.isReadonly, entry.2.schema⟩)

mutual

/-- Reads a value in each of its roles. -/
def reading : Value → Reading
  | .list items => ⟨.list items, .invalid (.list items), some (elementSchemas items), none⟩
  | .tuple items => ⟨.tuple items, .invalid (.tuple items), some (elementSchemas items), none⟩
  | .dict entries => readingOfParts (.dict entries) (partReadings entries)
  | .view entries => readingOfParts (.view entries) (partReadings entries)
  | v => ⟨v, .invalid v, none, none⟩

def elementSchemas : List Value → List Schema
  | [] => []
  | v :: vs => (reading v).schema :: elementSchemas vs

def partReadings : List (Value × Value) → List (Value × Reading)
  | [] => []
  | (key, value) :: entries => (key, reading value) :: partReadings entries

end

@[simp] theorem raw_reading (v : Value) : (reading v).raw = v := by
  cases v <;> rfl

def ofValue (v : Value) : Schema := (reading v).schema

def isValid : Schema → Bool
  | .invalid _ => false
  | _ => true

/-- The names that an object requires, if what is given for them is a list of names; nothing given
requires none. -/
def requiredNames? (required : Value) : Option (List String) :=
  if required.isNull then some [] else required.keyList?

end Schema

def Value.isSchema (v : Value) : Bool := (Schema.ofValue v).isValid

end DataShape
