import DataShape.Validation.Constraint
import DataShape.Value.Description

/-! Validation: every issue of a value under a schema, in the order of the document. What is wrong with a
value itself comes before what is wrong with its parts, and nothing found in one part changes what is
found in another. -/

namespace DataShape
namespace Schema

def mistyped (expected : String) (v : Value) : Outcome (List Cause) := do
  return [.mistyped expected (← v.description)]

def unexpectedKeys (properties : List (Property Schema)) (entries : Entries) : Outcome (List String) :=
  ((Entries.keys entries).filter fun key => !properties.any (·.key.sameKey key)).mapM (·.plain)

def missingKeys (required : List String) (entries : Entries) : List String :=
  required.filter fun name => !Entries.hasKey entries (.str name)

def keyCauses (properties : List (Property Schema)) (required : List String) (entries : Entries) :
    Outcome (List Cause) := do
  let unexpected ← unexpectedKeys properties entries
  let missing := missingKeys required entries
  return (if unexpected.isEmpty then [] else [.unexpectedKeys unexpected])
    ++ (if missing.isEmpty then [] else [.missingKeys missing])

/-- What is wrong with a value itself, its parts left aside. -/
def ownCauses (schema : Schema) (v : Value) : Outcome (List Cause) :=
  match schema with
  | .invalid _ => return [.notASchema]
  | .any => return []
  | .boolean => match v with
    | .bool _ => return []
    | _ => mistyped "boolean" v
  | .null => if v.isNull then return [] else mistyped "null" v
  | .number options => if v.isNumber then numberCauses options v else mistyped "number" v
  | .string options => match v with
    | .str s => textCauses options s
    | _ => mistyped "string" v
  | .undefined => match v with
    | .undefined => return []
    | _ => mistyped "undefined" v
  | .array _ => if v.isSequence then return [] else mistyped "array" v
  | .tuple items => match v.elements? with
    | none => mistyped "tuple" v
    | some elements =>
      return if elements.length = items.length then []
        else [.wrongLength items.length elements.length]
  | .record _ => if v.isMapping then return [] else mistyped "object" v
  | .object properties required => match v.entries? with
    | none => mistyped "object" v
    | some entries => match requiredNames? required with
      | none => do return [.badRequired (← required.literal)]
      | some names => keyCauses properties names entries

def declared? (properties : List (Property Schema)) (key : Value) : Option Schema :=
  (properties.find? (·.key.sameKey key)).map (·.schema)

/-- The issues of a part, with the step that leads to it. -/
def atStep (step : String) (issues : List Issue) : List Issue := issues.map (·.under ("/" ++ step))

mutual

/-- Every issue of a value under a schema; paths start at the value. -/
def issues (schema : Schema) (v : Value) : Outcome (List Issue) := do
  let own ← schema.ownCauses v
  let below ← match v, schema with
    | .list elements, .array items | .tuple elements, .array items => elementIssues items 0 elements
    | .list elements, .tuple items | .tuple elements, .tuple items =>
      if elements.length = items.length then placeIssues 0 items elements else pure []
    | .dict entries, .record values | .view entries, .record values => entryIssues values entries
    | .dict entries, .object properties required | .view entries, .object properties required =>
      if (requiredNames? required).isSome then propertyIssues properties entries else pure []
    | _, _ => pure []
  return own.map (·.issue) ++ below

def elementIssues (items : Schema) (index : Nat) : List Value → Outcome (List Issue)
  | [] => return []
  | v :: vs => do
    let first ← items.issues v
    return atStep (natText index) first ++ (← elementIssues items (index + 1) vs)

def placeIssues (index : Nat) (items : List Schema) : List Value → Outcome (List Issue)
  | [] => return []
  | v :: vs => match items with
    | [] => return []
    | item :: items => do
      let first ← item.issues v
      return atStep (natText index) first ++ (← placeIssues (index + 1) items vs)

def entryIssues (values : Schema) : List (Value × Value) → Outcome (List Issue)
  | [] => return []
  | (key, v) :: entries => do
    let step ← key.plain
    let first ← values.issues v
    return atStep step first ++ (← entryIssues values entries)

def propertyIssues (properties : List (Property Schema)) : List (Value × Value) → Outcome (List Issue)
  | [] => return []
  | (key, v) :: entries => match declared? properties key with
    | none => propertyIssues properties entries
    | some schema => do
      let step ← key.plain
      let first ← schema.issues v
      return atStep step first ++ (← propertyIssues properties entries)

end
end Schema

/-- Every issue of a value under a schema, with the path at which the value stands in front. -/
def validate (schema v : Value) (path : String) : Outcome (List Issue) := do
  return (← (Schema.ofValue schema).issues v).map (·.under path)

def isValid (schema v : Value) : Outcome Bool := do return (← validate schema v "").isEmpty

/-- Refuses a value that does not conform, with all issues. -/
def requireValid (schema v : Value) : Outcome Unit := do
  let issues ← validate schema v ""
  if issues.isEmpty then return else throw (.invalid issues)

end DataShape
