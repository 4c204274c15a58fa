import DataShape.Number.Shortest
import DataShape.Number.WholeText

/-! The text of a binary number: the shortest digits that read back, written positionally where
that stays short and with an exponent elsewhere. -/

namespace DataShape

/-- Where the text of a binary number changes its form. The point of a number stands `point` places
after its first digit. -/
structure FloatLayout where
  /-- Positional while the point is above this. -/
  pointAbove : Int
  /-- Positional while the point is at most this. -/
  pointAtMost : Int
  /-- The fewest digits of an exponent. -/
  exponentDigits : Nat
  nan : String
  infinity : String

/-- Positional from `0.0001` up to seventeen digits before the point; `e+16`, `e-05`. -/
def FloatLayout.shown : FloatLayout :=
  { pointAbove := -4, pointAtMost := 16, exponentDigits := 2, nan := "nan", infinity := "inf" }

/-- The same, with the names that JSON texts use. -/
def FloatLayout.json : FloatLayout :=
  { FloatLayout.shown with nan := "NaN", infinity := "Infinity" }

namespace FloatLayout

/-- Digits with a point after the first `point` of them, padded with zeros; one digit stays on both sides. -/
def positional (digits : List Char) (point : Int) : List Char :=
  if point ≤ 0 then '0' :: '.' :: (List.replicate (-point).toNat '0' ++ digits)
  else
    let before := point.toNat
    if digits.length ≤ before then
      digits ++ List.replicate (before - digits.length) '0' ++ ['.', '0']
    else digits.take before ++ '.' :: digits.drop before

/-- Digits with a point after the first, if there are more, and an exponent with its sign. -/
def scientific (layout : FloatLayout) (digits : List Char) (point : Int) : List Char :=
  let exponent := point - 1
  let power := decimalDigits exponent.natAbs
  let padded := List.replicate (layout.exponentDigits - power.length) '0' ++ power
  let body := match digits with
    | [] => []
    | [d] => [d]
    | d :: rest => d :: '.' :: rest
  body ++ 'e' :: (if exponent < 0 then '-' else '+') :: padded

def place (layout : FloatLayout) (digits : List Char) (point : Int) : List Char :=
  if layout.pointAbove < point ∧ point ≤ layout.pointAtMost then positional digits point
  else layout.scientific digits point

end FloatLayout

namespace Binary64

/-- The digits without trailing zeros, and the place of the last of them. -/
def significantDigits (n : Nat) (place : Int) : List Char × Int :=
  let digits := decimalDigits n
  let kept := (digits.reverse.dropWhile (· == '0')).reverse
  (kept, place + ((digits.length - kept.length : Nat) : Int))

def textIn (layout : FloatLayout) : Binary64 → String
  | .nan _ => layout.nan
  | .infinite negative => (if negative then "-" else "") ++ layout.infinity
  | .finite negative exponent fraction =>
    let body :=
      if significand exponent fraction = 0 then ['0', '.', '0']
      else
        let (n, last) := (RoundingInterval.ofFields exponent fraction).shortest
        let (digits, last) := significantDigits n last
        layout.place digits (last + (digits.length : Int))
    (if negative then "-" else "") ++ String.ofList body

def text (x : Binary64) : String := x.textIn .shown

/-- Digits with an optional point and exponent, as numbers are written. The caller has checked the form. -/
def ofDecimalText (negative : Bool) (whole fraction : List Char) (exponent : Int) : Binary64 :=
  ofDecimal negative (readDecimal (whole ++ fraction)) (exponent - (fraction.length : Int))

/-- Reads the text of a number: a sign, digits with a point, an exponent; `nan`, `inf`. -/
def ofText? (s : List Char) : Option Binary64 :=
  let (negative, s) := match s with
    | '-' :: rest => (true, rest)
    | '+' :: rest => (false, rest)
    | rest => (false, rest)
  if s = ['n', 'a', 'n'] then some textNaN
  else if s = ['i', 'n', 'f'] then some (.infinite negative)
  else
    let whole := s.takeWhile Char.isDigit
    let s := s.dropWhile Char.isDigit
    let (fraction, s) := match s with
      | '.' :: rest => (rest.takeWhile Char.isDigit, rest.dropWhile Char.isDigit)
      | rest => ([], rest)
    let exponent? : Option Int := match s with
      | [] => some 0
      | 'e' :: '-' :: digits => if digits.all Char.isDigit then some (-(readDecimal digits : Int)) else none
      | 'e' :: '+' :: digits => if digits.all Char.isDigit then some (readDecimal digits) else none
      | 'e' :: digits => if digits.all Char.isDigit then some (readDecimal digits) else none
      | _ => none
    if whole.isEmpty ∧ fraction.isEmpty then none
    else exponent?.map (ofDecimalText negative whole fraction)

end Binary64
end DataShape
