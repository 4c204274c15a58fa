import DataShape.Text.CharacterRuns

/-! Classes of characters: which are letters, digits, word characters and blanks, which can be shown
as they are, and which may stand in a name. -/

namespace DataShape
namespace CharacterClass

/-- The class of the last of the runs `low`, …, `high - 1` that starts at or before `c`. -/
def search (runs : Array (Nat × CharacterClass)) (c : Nat) (low high : Nat) : CharacterClass :=
  if high ≤ low + 1 then
    match runs[low]? with
    | some (_, kind) => kind
    | none => .hidden
  else
    let middle := (low + high) / 2
    match runs[middle]? with
    | some (start, _) => if start ≤ c then search runs c middle high else search runs c low middle
    | none => .hidden
termination_by high - low

def ofCode (c : Nat) : CharacterClass := search runs c 0 runs.size

end CharacterClass

namespace CodePoint

def isLetter (c : Nat) : Bool := CharacterClass.ofCode c == .letter

def isDecimal (c : Nat) : Bool := CharacterClass.ofCode c == .digit

def decimalValue? (c : Nat) : Option Nat :=
  if isDecimal c then
    if 0x1d7ce ≤ c ∧ c ≤ 0x1d7ff then some ((c - 0x1d7ce) % 10)
    else (List.range 10).find? fun k => !isDecimal (c - k - 1)
  else none

def isAlphanumeric (c : Nat) : Bool :=
  match CharacterClass.ofCode c with
  | .letter | .digit | .letterNumber | .otherNumber => true
  | _ => false

def isWord (c : Nat) : Bool := isAlphanumeric c || c == 0x5f

/-- A blank of any script, line ends included. -/
def isBlank (c : Nat) : Bool :=
  (0x9 ≤ c && c ≤ 0xd) || (0x1c ≤ c && c ≤ 0x20) || c == 0x85 || c == 0xa0 || c == 0x1680
    || (0x2000 ≤ c && c ≤ 0x200a) || c == 0x2028 || c == 0x2029 || c == 0x202f || c == 0x205f
    || c == 0x3000

/-- Can be shown as it is: the space, and everything that has a shape. -/
def isPrintable (c : Nat) : Bool := c == 0x20 || CharacterClass.ofCode c != .hidden

/-- Letters that nevertheless do not start a name. -/
def lettersNotStarting : List Nat :=
  [0x37a, 0xe33, 0xeb3, 0x2e2f, 0xfc5e, 0xfc5f, 0xfc60, 0xfc61, 0xfc62, 0xfc63, 0xfdfa, 0xfdfb,
   0xfe70, 0xfe72, 0xfe74, 0xfe76, 0xfe78, 0xfe7a, 0xfe7c, 0xfe7e, 0xff9e, 0xff9f]

def lettersNotContinuing : List Nat :=
  [0x37a, 0x2e2f, 0xfc5e, 0xfc5f, 0xfc60, 0xfc61, 0xfc62, 0xfc63, 0xfdfa, 0xfdfb,
   0xfe70, 0xfe72, 0xfe74, 0xfe76, 0xfe78, 0xfe7a, 0xfe7c, 0xfe7e]

def othersStarting : List Nat := [0x5f, 0x1885, 0x1886, 0x2118, 0x212e]

def othersContinuing : List Nat :=
  [0xb7, 0x387, 0x1369, 0x136a, 0x136b, 0x136c, 0x136d, 0x136e, 0x136f, 0x1370, 0x1371, 0x19da,
   0x2118, 0x212e]

def startsName (c : Nat) : Bool :=
  match CharacterClass.ofCode c with
  | .letter | .letterNumber => !lettersNotStarting.contains c
  | _ => othersStarting.contains c

def continuesName (c : Nat) : Bool :=
  match CharacterClass.ofCode c with
  | .letter | .letterNumber => !lettersNotContinuing.contains c
  | .mark | .digit | .connector => true
  | _ => othersContinuing.contains c

end CodePoint

def isName (s : List Char) : Bool :=
  match s with
  | [] => false
  | c :: rest => CodePoint.startsName c.toNat && rest.all fun d => CodePoint.continuesName d.toNat

end DataShape
