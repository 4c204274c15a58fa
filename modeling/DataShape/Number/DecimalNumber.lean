import DataShape.Number.Exact
import DataShape.Number.WholeText

/-! Decimal numbers that keep their trailing zeros: a whole number of digits counted in a power of ten. -/

namespace DataShape

/-- A decimal number, an infinity, or what is not a number, with the digits it carries and the object that it is. -/
inductive DecimalNumber where
  | finite (negative : Bool) (digits : Nat) (scale : Int)
  | infinite (negative : Bool)
  | nan (negative : Bool) (signals : Bool) (payload : List Char) (object : Nat)
deriving DecidableEq, Repr

namespace DecimalNumber

def toExact : DecimalNumber → Exact
  | .finite negative digits scale =>
    let (num, den) := scaledFraction 10 digits 1 scale
    .finite (mkRat (if negative then -(num : Int) else num) den)
  | .infinite negative => if negative then .negativeInfinity else .positiveInfinity
  | .nan _ _ _ _ => .nan

/-- Digits and an exponent: positional while no zeros are missing before the point and the number is
not below a millionth. -/
def magnitudeText (digits : Nat) (scale : Int) : List Char :=
  let ds := decimalDigits digits
  let left := scale + (ds.length : Int)
  let point := if scale ≤ 0 ∧ -6 < left then left else 1
  let body :=
    if point ≤ 0 then '0' :: '.' :: (List.replicate (-point).toNat '0' ++ ds)
    else if (ds.length : Int) ≤ point then ds ++ List.replicate (point.toNat - ds.length) '0'
    else ds.take point.toNat ++ '.' :: ds.drop point.toNat
  if left = point then body
  else
    let exponent := left - point
    body ++ 'E' :: (if exponent < 0 then '-' else '+') :: decimalDigits exponent.natAbs

def text : DecimalNumber → String
  | .finite negative digits scale =>
    (if negative then "-" else "") ++ String.ofList (magnitudeText digits scale)
  | .infinite negative => if negative then "-Infinity" else "Infinity"
  | .nan negative signals payload _ =>
    (if negative then "-" else "") ++ (if signals then "sNaN" else "NaN") ++ String.ofList payload

def readExponent? : List Char → Option Int
  | [] => some 0
  | e :: rest =>
    if e = 'e' ∨ e = 'E' then
      let (negative, digits) := match rest with
        | '-' :: digits => (true, digits)
        | '+' :: digits => (false, digits)
        | digits => (false, digits)
      if digits.isEmpty ∨ !digits.all Char.isDigit then none
      else some (if negative then -(readDecimal digits : Int) else readDecimal digits)
    else none

def ofText? (s : List Char) : Option DecimalNumber :=
  let (negative, s) := match s with
    | '-' :: rest => (true, rest)
    | '+' :: rest => (false, rest)
    | rest => (false, rest)
  match s.map Char.toLower with
  | ['i', 'n', 'f'] | ['i', 'n', 'f', 'i', 'n', 'i', 't', 'y'] => some (.infinite negative)
  | 'n' :: 'a' :: 'n' :: payload =>
    if payload.all Char.isDigit then some (.nan negative false payload 0) else none
  | 's' :: 'n' :: 'a' :: 'n' :: payload =>
    if payload.all Char.isDigit then some (.nan negative true payload 0) else none
  | _ =>
    let whole := s.takeWhile Char.isDigit
    let s := s.dropWhile Char.isDigit
    let (fraction, s) := match s with
      | '.' :: rest => (rest.takeWhile Char.isDigit, rest.dropWhile Char.isDigit)
      | rest => ([], rest)
    if whole.isEmpty ∧ fraction.isEmpty then none
    else (readExponent? s).map fun exponent =>
      .finite negative (readDecimal (whole ++ fraction)) (exponent - (fraction.length : Int))

end DecimalNumber
end DataShape
