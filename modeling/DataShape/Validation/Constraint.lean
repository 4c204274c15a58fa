import DataShape.Pattern.Search
import DataShape.Validation.Cause
import DataShape.Value.Literal

/-! The constraints on numbers and texts. Each is checked by itself: one that is broken, or that is not
usable, has one cause, and hides none of the others. -/

namespace DataShape

/-- A rational number is a whole multiple of another; nothing is a multiple of zero. -/
def isRationalMultiple (x factor : Rat) : Bool := factor ≠ 0 && (x / factor).den == 1

/-- A binary number is a whole multiple of another. Zero is one of an infinity, and no infinity is one of
anything. -/
def Binary64.isMultipleOf (x factor : Binary64) : Bool :=
  match factor with
  | .nan _ => false
  | .infinite _ => x.isZero
  | .finite _ _ _ =>
    match x.toRat?, factor.toRat? with
    | some x, some factor => isRationalMultiple x factor
    | _, _ => false

namespace Value

/-- The binary number nearest to a real number, if it is in range. -/
def toBinary64? : Value → Option Binary64
  | .int n => Binary64.ofRat? n
  | .fraction r => Binary64.ofRat? r
  | .float x => some x
  | _ => none

def toRat? : Value → Option Rat
  | .int n => some n
  | .fraction r => some r
  | _ => none

/-- A real number is a whole multiple of another. Integers and fractions are divided exactly; if one of
the two is a binary number, the other is rounded to one first. -/
def isMultipleOf (v factor : Value) : Bool :=
  match v.toRat?, factor.toRat? with
  | some x, some factor => isRationalMultiple x factor
  | _, _ =>
    match v.toBinary64?, factor.toBinary64? with
    | some x, some factor => x.isMultipleOf factor
    | _, _ => false

end Value

/-- A bound on the line of exact numbers is kept. What is not a number breaks no bound. -/
def NumberRule.keepsBound (rule : NumberRule) (x limit : Exact) : Bool :=
  match rule with
  | .maximum => !limit.lt x
  | .exclusiveMaximum => !limit.le x
  | .minimum => !x.lt limit
  | .exclusiveMinimum => !x.le limit
  | .multipleOf => true

def NumberRule.holds (rule : NumberRule) (v option : Value) : Bool :=
  match rule with
  | .multipleOf => v.isMultipleOf option
  | _ =>
    match v.toExact?, option.toExact? with
    | some x, some limit => rule.keepsBound x limit
    | _, _ => true

/-- What a numeric constraint has to say, if it is given: that it is not usable, or what `broken` says of
its number. -/
def numericOptionCauses (name : String) (option : Value) (broken : Value → Outcome (List Cause)) :
    Outcome (List Cause) :=
  if option.isNull then return []
  else if option.isNumber then broken option
  else do return [.badOption name (← option.literal)]

/-- What one constraint has to say of a real number that is shown as `shown`. -/
def NumberRule.causes (rule : NumberRule) (option v : Value) (shown : String) : Outcome (List Cause) :=
  numericOptionCauses rule.key option fun limit =>
    if rule.holds v limit then return []
    else do return [.numberBreaks rule (← limit.numberText) shown]

def numberCauses (options : NumberRule → Value) (v : Value) : Outcome (List Cause) := do
  let shown ← v.numberText
  return (← NumberRule.all.mapM fun rule => rule.causes (options rule) v shown).flatten

namespace Pattern

/-- The failure for a fault in a pattern that is not one of its form. -/
def Fault.failure? : Fault → Except Error Failure
  | .malformed e => .error e
  | .repetitionTooLarge => .ok .repetitionTooLarge
  | .conflictingFlags => .ok .conflictingFlags
  | .tooManyDigits count => .ok (.tooLongToRead count)

end Pattern

/-- What a pattern has to say of a text. -/
def patternCauses (option : Value) (s : String) : Outcome (List Cause) :=
  match option with
  | .null => return []
  | .str pattern =>
    match Pattern.compile pattern with
    | .ok compiled => return if compiled.search s then [] else [.noMatch pattern]
    | .error fault =>
      match fault.failure? with
      | .error e => return [.malformedPattern pattern e]
      | .ok failure => throw failure
  | other => do return [.badPattern (← other.literal)]

/-- A length against a limit that is a real number. -/
def isAbove (length : Nat) (limit : Value) : Bool :=
  match limit.toExact? with
  | some limit => limit.lt (.finite length)
  | none => false

def isBelow (length : Nat) (limit : Value) : Bool :=
  match limit.toExact? with
  | some limit => Exact.lt (.finite length) limit
  | none => false

def TextRule.causes (rule : TextRule) (option : Value) (s : String) : Outcome (List Cause) :=
  match rule with
  | .maxLength => numericOptionCauses rule.key option fun limit =>
    if isAbove s.length limit then do return [.tooLong (← limit.numberText) s.length] else return []
  | .minLength => numericOptionCauses rule.key option fun limit =>
    if isBelow s.length limit then do return [.tooShort (← limit.numberText) s.length] else return []
  | .pattern => patternCauses option s

def textCauses (options : TextRule → Value) (s : String) : Outcome (List Cause) := do
  return (← TextRule.all.mapM fun rule => rule.causes (options rule) s).flatten

end DataShape
