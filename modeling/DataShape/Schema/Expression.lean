import DataShape.Schema.Basic
import DataShape.Value.Literal

/-! Schemas written as type expressions: `Array<number>`, `[string, number]`, `Record<string, any>`,
`{id: number; readonly tags?: Array<string>}`. -/

namespace DataShape
namespace Schema

def propertyText (required : List String) (name : String) (property : Property Unit) (type : String) :
    String :=
  let isRequired := required.any fun r => property.key.sameKey (.str r)
  (if property.isReadonly then "readonly " else "") ++ name ++ (if isRequired then "" else "?")
    ++ ": " ++ type

mutual

def expression : Schema → Outcome String
  | .invalid _ => throw (.defect .unrecognised)
  | .any => return "any"
  | .boolean => return "boolean"
  | .null => return "null"
  | .number _ => return "number"
  | .string _ => return "string"
  | .undefined => return "undefined"
  | .array items => do return "Array<" ++ (← items.expression) ++ ">"
  | .tuple items => do return "[" ++ String.intercalate ", " (← expressions items) ++ "]"
  | .record values => do return "Record<string, " ++ (← values.expression) ++ ">"
  | .object properties required =>
    match requiredNames? required with
    | none => do throw (.defect (.invalidRequired (← required.literal)))
    | some names => do
      return "\x7b" ++ String.intercalate "; " (← propertyTexts names properties) ++ "\x7d"

def expressions : List Schema → Outcome (List String)
  | [] => return []
  | schema :: schemas => do
    let first ← schema.expression
    return first :: (← expressions schemas)

def propertyTexts (required : List String) : List (Property Schema) → Outcome (List String)
  | [] => return []
  | ⟨key, isReadonly, schema⟩ :: properties => do
    let name ← key.plain
    let first := propertyText required name ⟨key, isReadonly, ()⟩ (← schema.expression)
    return first :: (← propertyTexts required properties)

end
end Schema

def typeExpression (v : Value) : Outcome String := (Schema.ofValue v).expression

end DataShape
