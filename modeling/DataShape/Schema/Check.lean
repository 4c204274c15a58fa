import DataShape.Schema.Basic
import DataShape.Value.Literal

/-! Whether a tree of schemas is well formed: every node is a schema, and every object requires declared
properties only. The first node, in order of the tree, that is not so is reported. -/

namespace DataShape
namespace Schema

def declares (properties : List (Property Schema)) (names : List String) : Bool :=
  names.all fun name => properties.any fun property => property.key.sameKey (.str name)

mutual

def check (path : String) : Schema → Outcome Unit
  | .invalid v => do throw (.defect (.invalidNode path (← v.literal)))
  | .array items => items.check (path ++ "/items")
  | .tuple items => checkElements path 0 items
  | .record values => values.check (path ++ "/*")
  | .object properties required =>
    match requiredNames? required with
    | none => throw (.defect (.undeclaredRequired path))
    | some names =>
      if declares properties names then checkProperties path properties
      else throw (.defect (.undeclaredRequired path))
  | _ => return

def checkElements (path : String) (index : Nat) : List Schema → Outcome Unit
  | [] => return
  | item :: items => do
    item.check (path ++ "/" ++ natText index)
    checkElements path (index + 1) items

def checkProperties (path : String) : List (Property Schema) → Outcome Unit
  | [] => return
  | ⟨key, _, schema⟩ :: properties => do
    schema.check (path ++ "/" ++ (← key.plain))
    checkProperties path properties

end
end Schema

def checkSchema (v : Value) (path : String) : Outcome Unit := (Schema.ofValue v).check path

end DataShape
