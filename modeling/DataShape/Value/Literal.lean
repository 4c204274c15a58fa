import DataShape.Failure
import DataShape.Number.FloatText
import DataShape.Value.Basic

/-! Values written out in full: as literals, and as plain text. Both stop at a whole number that has
more digits than are written. -/

namespace DataShape

/-- A whole number in decimal, if it is not too long. -/
def writtenInt (n : Int) : Outcome String :=
  if withinDigitLimit n then .ok (intText n) else .error .tooLongToWrite

namespace Value

mutual

def literal : Value → Outcome String
  | .null => .ok "None"
  | .undefined => .ok "undefined"
  | .bool b => .ok (if b then "True" else "False")
  | .int n => writtenInt n
  | .float x => .ok x.text
  | .fraction r => do
    let num ← writtenInt r.num
    let den ← writtenInt r.den
    return "Fraction(" ++ num ++ ", " ++ den ++ ")"
  | .decimal d => .ok ("Decimal(\x27" ++ d.text ++ "\x27)")
  | .str s => .ok (quoted s)
  | .bytes bs => .ok (quotedBytes bs)
  | .list items => do return "[" ++ String.intercalate ", " (← literals items) ++ "]"
  | .tuple [item] => do return "(" ++ (← item.literal) ++ ",)"
  | .tuple items => do return "(" ++ String.intercalate ", " (← literals items) ++ ")"
  | .set [] => .ok "set()"
  | .set items => do return "\x7b" ++ String.intercalate ", " (← literals items) ++ "\x7d"
  | .dict entries => do
    return "\x7b" ++ String.intercalate ", " (← entryLiterals entries) ++ "\x7d"
  | .view entries => do
    return "mappingproxy(\x7b" ++ String.intercalate ", " (← entryLiterals entries) ++ "\x7d)"

def literals : List Value → Outcome (List String)
  | [] => .ok []
  | v :: vs => do
    let first ← v.literal
    return first :: (← literals vs)

def entryLiterals : List (Value × Value) → Outcome (List String)
  | [] => .ok []
  | (key, value) :: entries => do
    let key ← key.literal
    let value ← value.literal
    return (key ++ ": " ++ value) :: (← entryLiterals entries)

end

/-- A value as plain text: a text stands for itself, a fraction is written with a slash. -/
def plain : Value → Outcome String
  | .str s => .ok s
  | .fraction r => do
    let num ← writtenInt r.num
    if r.den = 1 then return num
    return num ++ "/" ++ (← writtenInt r.den)
  | .decimal d => .ok d.text
  | v => v.literal

/-- A number as messages show it: a binary number that is whole is written like an integer. -/
def numberText : Value → Outcome String
  | .float x => match x.toInt? with
    | some n => writtenInt n
    | none => .ok x.text
  | v => v.plain

end Value
end DataShape
