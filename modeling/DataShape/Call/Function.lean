import DataShape.Call.Signature
import DataShape.Document
import DataShape.Schema.Builder
import DataShape.Schema.Expression
import DataShape.Schema.Variant
import DataShape.Validation.Basic

/-! The functions of the library under the names by which they are called, with their parameters. -/

namespace DataShape

/-- The parameter that sets the constraint when a schema is built. -/
def NumberRule.parameter : NumberRule → String
  | .multipleOf => "multiple_of"
  | .maximum => "maximum"
  | .exclusiveMaximum => "exclusive_maximum"
  | .minimum => "minimum"
  | .exclusiveMinimum => "exclusive_minimum"

def TextRule.parameter : TextRule → String
  | .maxLength => "max_length"
  | .minLength => "min_length"
  | .pattern => "pattern"

/-- The report of issues that are given as a value. No value is an issue, so only none can be reported. -/
def reportOfValue (v : Value) : Outcome String :=
  match v.iterated? with
  | none => throw (.entries (.notIterable v.fullTypeName))
  | some [] => return ""
  | some (first :: _) => throw (.noField first.fullTypeName "message")

namespace Call

inductive Answer where
  | value (v : Value)
  | issues (issues : List Issue)

structure Function where
  signature : Signature
  run : Bound → Outcome Answer

namespace Function

/-- A function of fixed parameters that gives a value. -/
def plain (name : String) (required : List String) (run : Bound → Outcome Value) : Function where
  signature := ⟨name, required, [], [], false⟩
  run bound := do return .value (← run bound)

/-- A function whose parameters are all given by name. -/
def keyed (name : String) (keywords : List String) (run : Bound → Value) : Function where
  signature := ⟨name, [], [], keywords, false⟩
  run bound := return .value (run bound)

/-- The text of a path that is given, the root if none is. -/
def pathOf (bound : Bound) : Outcome String :=
  match bound.get? "path" with
  | none => return ""
  | some path => path.plain

def builders : List Function :=
  [ plain "any" [] fun _ => return Builder.any
  , plain "boolean" [] fun _ => return Builder.boolean
  , plain "null" [] fun _ => return Builder.null
  , plain "undefined" [] fun _ => return Builder.undefined
  , keyed "number" (NumberRule.all.map NumberRule.parameter) fun bound =>
      Builder.number fun rule => bound.getD rule.parameter
  , keyed "string" (TextRule.all.map TextRule.parameter) fun bound =>
      Builder.string fun rule => bound.getD rule.parameter
  , plain "array" ["items"] fun bound => return Builder.array (bound.getD "items")
  , { signature := ⟨"tuple", [], [], [], true⟩,
      run := fun bound => return .value (Builder.tuple bound.further) }
  , plain "record" ["items"] fun bound => return Builder.record (bound.getD "items")
  , plain "object" ["properties"] fun bound => Builder.object (bound.getD "properties")
  , plain "optional" ["item"] fun bound => Builder.optional (bound.getD "item")
  , plain "readonly" ["item"] fun bound => Builder.readonly (bound.getD "item") ]

def tests : List Function :=
  (Variant.all.map fun variant => plain ("is_" ++ variant.name ++ "_type") ["schema"] fun bound => do
    return .bool (← (bound.getD "schema").isOfVariant variant)) ++
  [ plain "is_schema_type" ["value"] fun bound => return .bool (bound.getD "value").isSchema
  , plain "is_optional" ["schema"] fun bound => return .bool (bound.getD "schema").isOptional
  , plain "is_readonly" ["schema"] fun bound => return .bool (bound.getD "schema").isReadonly ]

def operations : List Function :=
  [ plain "as_code" ["schema"] fun bound => do return .str (← typeExpression (bound.getD "schema"))
  , { signature := ⟨"check_schema", ["schema"], ["path"], [], false⟩,
      run := fun bound => do
        checkSchema (bound.getD "schema") (← pathOf bound)
        return .value .null }
  , { signature := ⟨"validate", ["schema", "value"], [], ["path"], false⟩,
      run := fun bound => do
        return .issues (← validate (bound.getD "schema") (bound.getD "value") (← pathOf bound)) }
  , plain "is_valid" ["schema", "value"] fun bound => do
      return .bool (← isValid (bound.getD "schema") (bound.getD "value"))
  , plain "validate_or_throw" ["schema", "value"] fun bound => do
      requireValid (bound.getD "schema") (bound.getD "value")
      return .null
  , plain "loads_schema" ["text"] fun bound => Document.ofValue (bound.getD "text")
  , plain "format_issues" ["issues"] fun bound => do
      return .str (← reportOfValue (bound.getD "issues")) ]

def all : List Function := builders ++ tests ++ operations

def named? (name : String) : Option Function := all.find? fun f => f.signature.function == name

def call (f : Function) (arguments : Arguments) : Outcome Answer :=
  match f.signature.bind arguments with
  | .error e => .error (.call e)
  | .ok bound => f.run bound

end Function
end Call
end DataShape
