import DataShape.Failure
import DataShape.Schema.Basic

/-! Values that are schemas, built from their parts. The parts are stored as given; an option that is
`null` is left out. -/

namespace DataShape

/-- The elements of a value that can be gone through, in order. A text has its characters, a byte string
its codes, a mapping its keys. -/
def Value.iterated? : Value → Option (List Value)
  | .list items | .tuple items | .set items => some items
  | .str s => some (s.toList.map fun c => .str (String.ofList [c]))
  | .bytes bs => some (bs.map fun b => .int b.toNat)
  | .dict entries | .view entries => some (Entries.keys entries)
  | _ => none

/-- Adds pairs to some entries, the first of them with this index. -/
def Entries.putPairs (entries : Entries) (index : Nat) : List Value → Outcome Entries
  | [] => return entries
  | pair :: pairs =>
    match pair.iterated? with
    | none => throw (.entries (.notASequence index))
    | some [key, value] =>
      match key.unhashable? with
      | some e => throw (.entries (.unhashable e))
      | none => Entries.putPairs (Entries.put entries key value) (index + 1) pairs
    | some parts => throw (.entries (.notAPair index parts.length))

/-- The entries of a mapping, or those that a sequence of pairs stands for. -/
def Value.toEntries (v : Value) : Outcome Entries :=
  match v.entries? with
  | some entries => return entries
  | none =>
    match v.iterated? with
    | none => throw (.entries (.notIterable v.fullTypeName))
    | some pairs => Entries.putPairs [] 0 pairs

namespace Builder

def tagged (tag : String) (fields : List (String × Value)) : Value :=
  .ofFields (("type", .str tag) :: fields)

def any : Value := tagged "any" []
def boolean : Value := tagged "boolean" []
def null : Value := tagged "null" []
def undefined : Value := tagged "undefined" []

def givenOptions (options : List (String × Value)) : List (String × Value) :=
  options.filter fun option => !option.2.isNull

def number (options : NumberRule → Value) : Value :=
  tagged "number" (givenOptions (NumberRule.all.map fun rule => (rule.key, options rule)))

def string (options : TextRule → Value) : Value :=
  tagged "string" (givenOptions (TextRule.all.map fun rule => (rule.key, options rule)))

def array (items : Value) : Value := tagged "array" [("items", items)]

def tuple (items : List Value) : Value := tagged "array" [("items", .list items)]

def record (values : Value) : Value := tagged "object" [("additionalProperties", values)]

/-- An object that requires every property that is not marked as optional. -/
def objectOf (properties : Entries) : Value :=
  let required := (properties.filter fun entry => !entry.2.isOptional).map (·.1)
  let declared := ("properties", Value.dict properties)
  tagged "object" (if required.isEmpty then [declared] else [declared, ("required", .list required)])

def object (properties : Value) : Outcome Value := do return objectOf (← properties.toEntries)

/-- Sets a flag on a wrapper, or on a new wrapper around any other mapping. -/
def mark (item : Value) (flag : String) : Outcome Value :=
  match item.entries? with
  | none => throw (.noField item.fullTypeName "get")
  | some entries =>
    if item.isModified then return .dict (Entries.put entries (.str flag) (.bool true))
    else return tagged "modified" [("item", item), (flag, .bool true)]

def optional (item : Value) : Outcome Value :=
  if item.isOptional then return item else mark item "optional"

def readonly (item : Value) : Outcome Value :=
  if item.isReadonly then return item else mark item "readonly"

end Builder
end DataShape
