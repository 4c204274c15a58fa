import DataShape.Pattern.Escape

/-! Sets of characters in brackets. -/

namespace DataShape.Pattern

def readSetMember (source : Source) (t : Token) (rest : List Token) :
    Except Fault (SetItem × List Token) :=
  if t.escaped then readSetEscape source t rest else .ok (.one t.char.toNat, rest)

def rangeOf (source : Source) (first last : Token) (least most : SetItem) (rest : List Token) :
    Except Fault SetItem :=
  let fault := source.faultBack rest (.badRange first.text last.text)
    (first.text.length + 1 + last.text.length)
  match least, most with
  | .one low, .one high => if high < low then .error fault else .ok (.range low high)
  | _, _ => .error fault

/-- The items up to the closing bracket, which is an item itself if it comes first. Every turn reads a
token, so as many turns as there are tokens are enough. -/
def readSetItems (source : Source) (start : Nat) :
    Nat → List SetItem → List Token → Except Fault (List SetItem × List Token)
  | 0, _, rest => .error (source.fault rest .unterminatedSet start)
  | _ + 1, _, [] => .error (source.fault [] .unterminatedSet start)
  | turns + 1, items, t :: rest =>
    if t.is ']' && !items.isEmpty then .ok (items, rest)
    else do
      let (item, rest) ← readSetMember source t rest
      match follow? '-' rest with
      | none => readSetItems source start turns (items ++ [item]) rest
      | some [] => .error (source.fault [] .unterminatedSet start)
      | some (u :: rest) =>
        if u.is ']' then return (items ++ [item, .one '-'.toNat], rest)
        else
          let (last, rest) ← readSetMember source u rest
          let range ← rangeOf source t u item last rest
          readSetItems source start turns (items ++ [range]) rest

def readSet (source : Source) (t : Token) (rest : List Token) : Except Fault (Node × List Token) := do
  let (negated, rest) := match follow? '^' rest with
    | some rest => (true, rest)
    | none => (false, rest)
  let (items, rest) ← readSetItems source t.start (rest.length + 1) [] rest
  match items.eraseDups with
  | [.one code] => return (if negated then .notOne code else .one code, rest)
  | items => return (.set negated items, rest)

end DataShape.Pattern
