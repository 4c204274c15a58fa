import DataShape.Failure
import DataShape.Pattern.Error
import DataShape.Schema.Basic

/-! The causes of issues. Values and limits stand in a cause as they are shown. -/

namespace DataShape

inductive Cause where
  | notASchema
  /-- Another kind of value than the schema asks. -/
  | mistyped (expected shown : String)
  /-- A numeric constraint that is no number. -/
  | badOption (name shown : String)
  /-- A pattern that is no text. -/
  | badPattern (shown : String)
  | malformedPattern (pattern : String) (e : Pattern.Error)
  /-- A numeric constraint that is broken. -/
  | numberBreaks (rule : NumberRule) (limit shown : String)
  | tooLong (limit : String) (length : Nat)
  | tooShort (limit : String) (length : Nat)
  | noMatch (pattern : String)
  | wrongLength (expected actual : Nat)
  | badRequired (shown : String)
  | unexpectedKeys (keys : List String)
  | missingKeys (keys : List String)
deriving DecidableEq, Repr

/-- What a broken constraint asks of a number. -/
def NumberRule.demand (limit shown : String) : NumberRule → String
  | .multipleOf => "Value must be a multiple of " ++ limit
  | .maximum => "Value must be less than or equal to " ++ limit ++ ", instead was " ++ shown
  | .exclusiveMaximum => "Value must be strictly less than " ++ limit ++ ", instead was " ++ shown
  | .minimum => "Value must be greater than or equal to " ++ limit ++ ", instead was " ++ shown
  | .exclusiveMinimum => "Value must be strictly greater than " ++ limit ++ ", instead was " ++ shown

namespace Cause

def kind : Cause → IssueKind
  | .notASchema | .badOption _ _ | .badPattern _ | .malformedPattern _ _ | .badRequired _ => .invalidSchema
  | .mistyped _ _ | .wrongLength _ _ | .unexpectedKeys _ | .missingKeys _ => .invalidType
  | .numberBreaks _ _ _ | .tooLong _ _ | .tooShort _ _ | .noMatch _ => .invalidValue

def message : Cause → String
  | .notASchema => "Invalid schema"
  | .mistyped expected shown => "Invalid type, expected " ++ expected ++ ", got " ++ shown
  | .badOption name shown => "Invalid " ++ name ++ " option " ++ shown
  | .badPattern shown => "Invalid pattern " ++ shown ++ ": expected a string"
  | .malformedPattern pattern e => "Invalid pattern " ++ quoted pattern ++ ": " ++ e.message pattern
  | .numberBreaks rule limit shown => rule.demand limit shown
  | .tooLong limit length => "String value must have a length no greater than " ++ limit
      ++ ", instead was " ++ natText length
  | .tooShort limit length => "String value must have a length no less than " ++ limit
      ++ ", instead was " ++ natText length
  | .noMatch pattern => "String value must match pattern: " ++ pattern
  | .wrongLength expected actual => "Expected " ++ natText expected ++ " elements, got "
      ++ natText actual ++ " elements instead"
  | .badRequired shown => "Invalid required option " ++ shown
  | .unexpectedKeys keys => "Unexpected keys: " ++ String.intercalate ", " keys
  | .missingKeys keys => "Missing required keys: " ++ String.intercalate ", " keys

/-- The issue of a cause that lies in the whole document. -/
def issue (cause : Cause) : Issue := ⟨cause.kind, cause.message, ""⟩

end Cause
end DataShape
