import DataShape.Failure
import DataShape.Value.Basic

/-! Looking entries up. Two keys are one key if they are equal numbers, of whatever kind, or equal
texts, byte strings or tuples. What is not a number is equal to nothing, not even to itself, but a key is
first of all the object that it is: the same object is the same key. -/

namespace DataShape
namespace Value

/-- Both are one object, which is not a number. -/
def sameObject : Value → Value → Bool
  | .float (.nan a), .float (.nan b) => a == b
  | .decimal (.nan _ _ _ a), .decimal (.nan _ _ _ b) => a == b
  | _, _ => false

mutual

def sameKey : Value → Value → Bool
  | .null, .null => true
  | .undefined, .undefined => true
  | .str a, .str b => a == b
  | .bytes a, .bytes b => a == b
  | .tuple a, .tuple b => sameKeys a b
  | .list a, .list b => sameKeys a b
  | a, b => match a.toExact?, b.toExact? with
    | some x, some y => a.sameObject b || x.same y
    | _, _ => false

def sameKeys : List Value → List Value → Bool
  | [], [] => true
  | a :: as, b :: bs => sameKey a b && sameKeys as bs
  | _, _ => false

end

/-- Lists, sets and mappings cannot be keys, nor a signaling NaN, nor tuples that hold any of these. -/
def unhashable? : Value → Option KeyError
  | v@(.list _) | v@(.set _) | v@(.dict _) | v@(.view _) => some (.mutable v.typeName)
  | .decimal (.nan _ true _ _) => some .signalingNaN
  | .tuple items => unhashableAmong? items
  | _ => none
where
  unhashableAmong? : List Value → Option KeyError
    | [] => none
    | v :: vs => match v.unhashable? with
      | some e => some e
      | none => unhashableAmong? vs

end Value

namespace Entries

def lookup? (entries : Entries) (key : Value) : Option Value :=
  (entries.find? fun entry => entry.1.sameKey key).map (·.2)

def hasKey (entries : Entries) (key : Value) : Bool := (entries.lookup? key).isSome

/-- Sets the value under a key: an entry that is there keeps its place and its spelling of the key. -/
def put (entries : Entries) (key value : Value) : Entries :=
  match entries with
  | [] => [(key, value)]
  | entry :: rest =>
    if entry.1.sameKey key then (entry.1, value) :: rest else entry :: Entries.put rest key value

/-- The entries of a mapping built from pairs in their order. -/
def ofPairs (pairs : List (Value × Value)) : Entries :=
  pairs.foldl (fun entries pair => Entries.put entries pair.1 pair.2) []

def keys (entries : Entries) : List Value := entries.map (·.1)

end Entries

namespace Value

def ofPairs (pairs : List (Value × Value)) : Value := .dict (Entries.ofPairs pairs)

def ofFields (fields : List (String × Value)) : Value :=
  .dict (fields.map fun field => (.str field.1, field.2))

/-- What a mapping has under a text key; `none` also of a value that is no mapping. -/
def field? (v : Value) (name : String) : Option Value :=
  v.entries?.bind fun entries => Entries.lookup? entries (.str name)

end Value
end DataShape
