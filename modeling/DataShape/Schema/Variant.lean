import DataShape.Failure
import DataShape.Schema.Basic

/-! The variants of schemas, told apart on the value that a schema is given as, whether or not it is a
well-formed one. Every test looks through the wrapper of a marked property. -/

namespace DataShape

def Value.unwrap (v : Value) : Outcome Value :=
  if v.isModified then
    match v.field? "item" with
    | some item => .ok item
    | none => .error .missingItem
  else .ok v

inductive Variant where
  | any | boolean | null | number | string | undefined | array | tuple | record | object
deriving DecidableEq, Repr

namespace Variant

def all : List Variant :=
  [.any, .boolean, .null, .number, .string, .undefined, .array, .tuple, .record, .object]

def name : Variant → String
  | .any => "any"
  | .boolean => "boolean"
  | .null => "null"
  | .number => "number"
  | .string => "string"
  | .undefined => "undefined"
  | .array => "array"
  | .tuple => "tuple"
  | .record => "record"
  | .object => "object"

/-- The tag of the schemas of a variant. Arrays share theirs with tuples, and records with objects. -/
def tag : Variant → String
  | .tuple => "array"
  | .record => "object"
  | variant => variant.name

/-- What tells variants that share a tag apart. -/
def fits (node : Value) : Variant → Bool
  | .array => !(node.fieldOrNull "items").isSequence
  | .tuple => (node.fieldOrNull "items").isSequence
  | .record => !(node.fieldOrNull "additionalProperties").isNull
  | .object => (node.fieldOrNull "additionalProperties").isNull
  | _ => true

def holds (variant : Variant) (node : Value) : Bool :=
  node.tag? == some variant.tag && variant.fits node

end Variant

def Value.isOfVariant (v : Value) (variant : Variant) : Outcome Bool := do
  return variant.holds (← v.unwrap)

end DataShape
