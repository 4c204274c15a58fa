import DataShape.Number.DecimalNumber
import DataShape.Number.Exact

/-! Values: the untyped data that schemas describe, and that schemas themselves are made of. Mappings
keep the order of their entries. A value is of any depth, and it never changes: a copy of a value is the value. -/

namespace DataShape

inductive Value where
  | null
  /-- Stands for a value that is not there. -/
  | undefined
  | bool (b : Bool)
  | int (n : Int)
  | float (x : Binary64)
  | fraction (r : Rat)
  | decimal (d : DecimalNumber)
  | str (s : String)
  | bytes (bs : List UInt8)
  | list (items : List Value)
  | tuple (items : List Value)
  | set (items : List Value)
  | dict (entries : List (Value × Value))
  /-- A mapping that can only be looked at. -/
  | view (entries : List (Value × Value))

/-- The entries of a mapping, in their order. -/
abbrev Entries := List (Value × Value)

namespace Value

def typeName : Value → String
  | .null => "NoneType"
  | .undefined => "_Undefined"
  | .bool _ => "bool"
  | .int _ => "int"
  | .float _ => "float"
  | .fraction _ => "Fraction"
  | .decimal _ => "Decimal"
  | .str _ => "str"
  | .bytes _ => "bytes"
  | .list _ => "list"
  | .tuple _ => "tuple"
  | .set _ => "set"
  | .dict _ => "dict"
  | .view _ => "mappingproxy"

/-- The name of the type of a value with the module that it is known by, where it has one. -/
def fullTypeName : Value → String
  | .decimal _ => "decimal.Decimal"
  | v => v.typeName

def entries? : Value → Option Entries
  | .dict entries | .view entries => some entries
  | _ => none

/-- The elements of a value that is a list or a tuple; a text is neither. -/
def elements? : Value → Option (List Value)
  | .list items | .tuple items => some items
  | _ => none

def isMapping (v : Value) : Bool := v.entries?.isSome

def isSequence (v : Value) : Bool := v.elements?.isSome

def isNull : Value → Bool
  | .null => true
  | _ => false

/-- The exact number that a number of any kind stands for; `true` counts as one and `false` as zero. -/
def toExact? : Value → Option Exact
  | .bool b => some (.finite (if b then 1 else 0))
  | .int n => some (.finite n)
  | .float x => some (.ofBinary64 x)
  | .fraction r => some (.finite r)
  | .decimal d => some d.toExact
  | _ => none

/-- A real number: an integer, a binary number or a fraction. Truth values and decimal numbers are not. -/
def isNumber : Value → Bool
  | .int _ | .float _ | .fraction _ => true
  | _ => false

/-- The texts of a list or tuple that holds texts only. -/
def keyList? (v : Value) : Option (List String) :=
  v.elements?.bind fun items => items.mapM fun
    | .str s => some s
    | _ => none

def isKeyList (v : Value) : Bool := v.keyList?.isSome

end Value
end DataShape
