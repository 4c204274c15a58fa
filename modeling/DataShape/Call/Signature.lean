import DataShape.Call.Error
import DataShape.Value.Basic

/-! Parameters of functions that are called by name, and how arguments are fitted to them. -/

namespace DataShape.Call

structure Signature where
  function : String
  required : List String
  optional : List String
  keywordOnly : List String
  isVariadic : Bool

structure Arguments where
  positional : List Value
  named : List (String × Value)

/-- Arguments that fit: by the names of the parameters, and those by position that are left. -/
structure Bound where
  named : List (String × Value)
  further : List Value

def Bound.get? (bound : Bound) (name : String) : Option Value :=
  (bound.named.find? fun entry => entry.1 == name).map (·.2)

def Bound.getD (bound : Bound) (name : String) : Value := (bound.get? name).getD .null

namespace Signature

def places (signature : Signature) : List String := signature.required ++ signature.optional

def addNamed (signature : Signature) (given : List (String × Value)) :
    List (String × Value) → Except Error (List (String × Value))
  | [] => .ok given
  | (name, v) :: rest =>
    if !(signature.places ++ signature.keywordOnly).contains name then
      .error (.unexpectedKeyword signature.function name)
    else if given.any (·.1 == name) then .error (.repeatedArgument signature.function name)
    else signature.addNamed (given ++ [(name, v)]) rest

/-- Fits arguments to the parameters. Names are looked at first, then the number of arguments by position,
then what is missing. -/
def bind (signature : Signature) (arguments : Arguments) : Except Error Bound := do
  let places := signature.places
  let given ← signature.addNamed (places.zip arguments.positional) arguments.named
  let further := arguments.positional.drop places.length
  if !signature.isVariadic && !further.isEmpty then
    let keywordOnly := (given.filter fun entry => signature.keywordOnly.contains entry.1).length
    throw (.tooManyPositional signature.function signature.required.length places.length
      arguments.positional.length keywordOnly)
  let missing := signature.required.filter fun name => !given.any (·.1 == name)
  if !missing.isEmpty then throw (.missingArguments signature.function missing)
  return ⟨given, further⟩

end Signature
end DataShape.Call
