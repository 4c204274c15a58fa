import DataShape.Validation.Basic

/-! Tables. What a table is, and how its rows come out of it, is given from outside: a row is a mapping from
the names of the columns to the cells. Rows are known by their position only, whatever labels a table has for
them. -/

namespace DataShape

/-- Every issue of some rows, counted on from an index. A path starts with the number of the row. -/
def validateRows (schema : Value) (index : Nat) : List Value → Outcome (List Issue)
  | [] => return []
  | row :: rows => do
    let found ← validate schema row ("/" ++ natText index)
    return found ++ (← validateRows schema (index + 1) rows)

/-- Every issue of the rows of a table. A value that is no table is refused. -/
def validateTable {Table : Type} (rows : Table → List Value) (schema : Value) :
    Value ⊕ Table → Outcome (List Issue)
  | .inl v => throw (.notAFrame v.typeName)
  | .inr table => validateRows schema 0 (rows table)

end DataShape
