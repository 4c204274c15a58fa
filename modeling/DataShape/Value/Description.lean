import DataShape.Value.Literal
import DataShape.Value.Order

/-! Short descriptions of values: the type and a literal that is cut where it grows long. Of a
container the first elements are shown, down to a fixed depth, entries and sets in order of their
keys where these compare. -/

namespace DataShape

/-- How much of a value a description shows. -/
structure DescriptionLimits where
  /-- Levels of containers. -/
  depth : Nat
  /-- Elements of a list, tuple or set. -/
  elements : Nat
  /-- Entries of a mapping. -/
  entries : Nat
  /-- Characters of a text, quotes and escapes included, and of any other value that is not cut by its parts. -/
  characters : Nat
  /-- Digits of a whole number, with its sign. -/
  digits : Nat
  /-- Stands for what is left out. -/
  gap : String

def DescriptionLimits.standard : DescriptionLimits :=
  { depth := 6, elements := 6, entries := 4, characters := 60, digits := 40, gap := "..." }

/-- The number of characters kept at the front of a text that is cut to `limit`. -/
def keptInFront (limit : Nat) : Nat := (limit - 3) / 2

/-- The number of characters kept at the end of a text that is cut to `limit`. -/
def keptAtEnd (limit : Nat) : Nat := limit - 3 - keptInFront limit

def lastItems {α : Type} (n : Nat) (items : List α) : List α := items.drop (items.length - n)

/-- A text cut in the middle if it is longer than the limit. -/
def cutText (limit : Nat) (gap s : String) : String :=
  let cs := s.toList
  if limit < cs.length then
    String.ofList (cs.take (keptInFront limit)) ++ gap ++ String.ofList (lastItems (keptAtEnd limit) cs)
  else s

/-- The end of a text that is quoted again after a cut: as many characters as are kept at the end,
counted from the end of a text that is long enough and otherwise over its start once more. -/
def tailForCut (limit : Nat) (cs : List Char) : List Char :=
  let n := keptAtEnd limit
  if n ≤ cs.length then cs.drop (cs.length - n) else cs.drop (cs.length - (n - cs.length))

/-- A quoted text cut in the middle if it is longer than the limit. It is cut before it is quoted, so
that no quote or escape grows beyond the limit, and again afterwards. -/
def cutQuoted (limit : Nat) (gap s : String) : String :=
  let cs := s.toList
  let whole := Quoted.chars (cs.take limit)
  if limit < whole.length then
    let joined := Quoted.chars (cs.take (keptInFront limit) ++ tailForCut limit cs)
    String.ofList (joined.take (keptInFront limit)) ++ gap
      ++ String.ofList (lastItems (keptAtEnd limit) joined)
  else String.ofList whole

/-- The shown pieces with the gap behind them if not all are shown. -/
def listed (limit : Nat) (gap : String) (pieces : List (Outcome String)) : Outcome String := do
  let shown ← (pieces.take limit).mapM id
  return String.intercalate ", " (if limit < pieces.length then shown ++ [gap] else shown)

/-- What stands between the brackets of a container: nothing in an empty one, the gap alone below the
last level, the first of the pieces elsewhere. -/
def shownPieces (limits : DescriptionLimits) (depth limit count : Nat)
    (pieces : Unit → List (Outcome String)) : Outcome String :=
  if count = 0 then .ok ""
  else if depth = 0 then .ok limits.gap
  else listed limit limits.gap (pieces ())

namespace Value

mutual

/-- A literal cut to the limits, with so many levels of containers. It stops at a whole number over the digit limit.
It stops too at a fraction or a view that holds one, where a placeholder could stand: that would show an address, which
differs from run to run. -/
def shortLiteral (limits : DescriptionLimits) (depth : Nat) : Value → Outcome String
  | .str s => .ok (cutQuoted limits.characters limits.gap s)
  | .int n => do return cutText limits.digits limits.gap (← writtenInt n)
  | .list items => do
    let inner ← shownPieces limits depth limits.elements items.length fun _ =>
      (keyedLiterals limits (depth - 1) items).map (·.2)
    return "[" ++ inner ++ "]"
  | .tuple items => do
    let inner ← shownPieces limits depth limits.elements items.length fun _ =>
      (keyedLiterals limits (depth - 1) items).map (·.2)
    let trail := if depth ≠ 0 ∧ items.length = 1 then "," else ""
    return "(" ++ inner ++ trail ++ ")"
  | .set [] => .ok "set()"
  | .set items => do
    let inner ← shownPieces limits depth limits.elements items.length fun _ =>
      (sortedIfComparable (·.1) (keyedLiterals limits (depth - 1) items)).map (·.2)
    return "\x7b" ++ inner ++ "\x7d"
  | .dict entries => do
    let inner ← shownPieces limits depth limits.entries entries.length fun _ =>
      (sortedIfComparable (·.1) (keyedEntries limits (depth - 1) entries)).map (·.2)
    return "\x7b" ++ inner ++ "\x7d"
  | v => do return cutText limits.characters limits.gap (← v.literal)

def keyedLiterals (limits : DescriptionLimits) (depth : Nat) :
    List Value → List (Value × Outcome String)
  | [] => []
  | v :: vs => (v, v.shortLiteral limits depth) :: keyedLiterals limits depth vs

def keyedEntries (limits : DescriptionLimits) (depth : Nat) :
    List (Value × Value) → List (Value × Outcome String)
  | [] => []
  | (key, value) :: entries =>
    let piece : Outcome String := do
      let key ← key.shortLiteral limits depth
      let value ← value.shortLiteral limits depth
      return key ++ ": " ++ value
    (key, piece) :: keyedEntries limits depth entries

end

def description : Value → Outcome String
  | .undefined => .ok "undefined"
  | .null => .ok "None"
  | v => do return v.typeName ++ " " ++ (← v.shortLiteral .standard DescriptionLimits.standard.depth)

end Value
end DataShape
