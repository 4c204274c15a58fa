import DataShape.Value.Key

/-! Order among values of one kind: numbers by size, texts and byte strings by code, lists and tuples
by their first difference. Values of different kinds do not compare. -/

namespace DataShape

/-- The smaller of two sequences by their first difference; `none` if there is none to see. -/
def lexicographicLess {α : Type} [DecidableEq α] (less : α → α → Bool) : List α → List α → Bool
  | [], [] => false
  | [], _ :: _ => true
  | _ :: _, [] => false
  | a :: as, b :: bs => if a = b then lexicographicLess less as bs else less a b

namespace Value

mutual

/-- Strictly smaller; `none` for values that do not compare. -/
def less? : Value → Value → Option Bool
  | .str a, .str b => some (lexicographicLess (fun c d => c.toNat < d.toNat) a.toList b.toList)
  | .bytes a, .bytes b => some (lexicographicLess (fun c d => c.toNat < d.toNat) a b)
  | .tuple a, .tuple b => lessAmong? a b
  | .list a, .list b => lessAmong? a b
  | .decimal (.nan _ _ _ _), _ => none
  | _, .decimal (.nan _ _ _ _) => none
  | a, b => match a.toExact?, b.toExact? with
    | some x, some y => some (x.lt y)
    | _, _ => none

/-- Strictly smaller at the first place where two sequences differ. -/
def lessAmong? : List Value → List Value → Option Bool
  | [], [] => some false
  | [], _ :: _ => some true
  | _ :: _, [] => some false
  | a :: as, b :: bs => if a.sameKey b then lessAmong? as bs else less? a b

end

end Value

/-- Puts an item behind the last of some sorted items that it is not smaller than; `items` are in
falling order. -/
def insertFalling {α : Type} (key : α → Value) (item : α) : List α → Option (List α)
  | [] => some [item]
  | last :: rest => do
    if ← (key item).less? (key last) then return last :: (← insertFalling key item rest)
    return item :: last :: rest

/-- Items sorted by their keys if all keys that are met compare, in their own order otherwise. -/
def sortedIfComparable {α : Type} (key : α → Value) (items : List α) : List α :=
  match items.foldlM (fun sorted item => insertFalling key item sorted) [] with
  | some falling => falling.reverse
  | none => items

/-- The set of some values: each once, in rising order if they compare. -/
def Value.setOf (items : List Value) : Value :=
  let kept : List Value :=
    items.foldl (fun kept v => if kept.any (·.sameKey v) then kept else kept ++ [v]) []
  .set (sortedIfComparable id kept)

end DataShape
