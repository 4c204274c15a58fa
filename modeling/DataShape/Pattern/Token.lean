import DataShape.Pattern.Error
import DataShape.Pattern.Tree

/-! The characters of a pattern as its reader sees them: a backslash goes with the character after it. -/

namespace DataShape.Pattern

/-- A character of a pattern, with the backslash before it if there is one. -/
structure Token where
  /-- The number of characters of the pattern before it. -/
  start : Nat
  escaped : Bool
  char : Char
deriving DecidableEq, Repr

namespace Token

def text (t : Token) : List Char := if t.escaped then ['\\', t.char] else [t.char]

def is (t : Token) (c : Char) : Bool := !t.escaped && t.char == c

end Token

structure Source where
  length : Nat
  /-- The pattern ends in a backslash that goes with no character. -/
  dangling : Bool
deriving DecidableEq, Repr

def tokensFrom (start : Nat) : List Char → List Token × Bool
  | [] => ([], false)
  | ['\\'] => ([], true)
  | '\\' :: c :: rest =>
    let (ts, dangling) := tokensFrom (start + 2) rest
    (⟨start, true, c⟩ :: ts, dangling)
  | c :: rest =>
    let (ts, dangling) := tokensFrom (start + 1) rest
    (⟨start, false, c⟩ :: ts, dangling)

namespace Source

def position (source : Source) : List Token → Nat
  | [] => source.length
  | t :: _ => t.start

def fault (source : Source) (rest : List Token) (reason : Reason) (position : Nat) : Fault :=
  if source.dangling && rest.isEmpty then .malformed ⟨.danglingEscape, some (source.length - 1)⟩
  else .malformed ⟨reason, some position⟩

/-- A fault `back` characters before the next token. -/
def faultBack (source : Source) (rest : List Token) (reason : Reason) (back : Nat) : Fault :=
  source.fault rest reason (source.position rest - back)

/-- Up to `most` characters that satisfy a test. -/
def takeWhile (test : Char → Bool) : Nat → List Token → List Char × List Token
  | 0, ts => ([], ts)
  | _ + 1, [] => ([], [])
  | most + 1, t :: ts =>
    if !t.escaped && test t.char then
      let (cs, rest) := takeWhile test most ts
      (t.char :: cs, rest)
    else ([], t :: ts)

/-- The characters up to a terminator, `what` being what they are. -/
def takeUntil (source : Source) (terminator : Char) (what : String) (before : List Char) :
    List Token → Except Fault (List Char × List Token)
  | [] =>
    if before.isEmpty then .error (source.faultBack [] (.missingName what) 0)
    else .error (source.faultBack [] (.unterminatedName terminator) before.length)
  | t :: ts =>
    if t.is terminator then
      if before.isEmpty then .error (source.faultBack ts (.missingName what) 1)
      else .ok (before, ts)
    else takeUntil source terminator what (before ++ t.text) ts

end Source

def follow? (c : Char) : List Token → Option (List Token)
  | t :: ts => if t.is c then some ts else none
  | [] => none

/-- The whole number that a text stands for: blanks around it, a sign, digits of any script with single
low lines between them. -/
def readInteger? (s : List Char) : Option Int :=
  let blank (c : Char) := CodePoint.isBlank c.toNat
  let s := ((s.dropWhile blank).reverse.dropWhile blank).reverse
  let (negative, s) := match s with
    | '-' :: rest => (true, rest)
    | '+' :: rest => (false, rest)
    | rest => (false, rest)
  let rec digits (afterDigit : Bool) : List Char → Option (List Nat)
    | [] => if afterDigit then some [] else none
    | '_' :: rest => if afterDigit && !rest.isEmpty then digits false rest else none
    | c :: rest => do
      let d ← CodePoint.decimalValue? c.toNat
      return d :: (← digits true rest)
  (digits false s).bind fun ds =>
    if digitLimit < ds.length then none
    else
      let n : Int := ofDigitValues 10 ds
      some (if negative then -n else n)

end DataShape.Pattern
