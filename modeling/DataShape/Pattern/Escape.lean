import DataShape.Pattern.Token
import DataShape.Text.CharacterName

/-! Escapes in a pattern: what a backslash with the characters after it stands for, inside a set of
characters and outside. -/

namespace DataShape.Pattern

/-- The groups of a pattern as far as it has been read. -/
structure Groups where
  count : Nat := 1
  names : List (String × Nat) := []
  widths : List (Nat × Width) := []
  /-- In a look behind: the groups from here on were opened in it. -/
  lookBehindFrom : Option Nat := none
deriving Repr

namespace Groups

def isClosed (groups : Groups) (index : Nat) : Bool :=
  index < groups.count && (groups.widths.lookup index).isSome

/-- Why a look behind cannot refer to a group. -/
def lookBehindFault? (groups : Groups) (index : Nat) : Option Reason :=
  match groups.lookBehindFrom with
  | none => none
  | some first =>
    if !groups.isClosed index then some .openGroup
    else if first ≤ index then some .groupInSameLookBehind
    else none

end Groups

def isOctal (c : Char) : Bool := '0' ≤ c && c ≤ '7'

def isHex (c : Char) : Bool := (hexValue? c).isSome

def isAsciiLetter (c : Char) : Bool := ('a' ≤ c && c ≤ 'z') || ('A' ≤ c && c ≤ 'Z')

def readOctal (digits : List Char) : Nat := ofDigitValues 8 (digits.filterMap digitValue?)

/-- The control character that a letter stands for; `b` is a backspace only in a set. -/
def controlEscape? (c : Char) : Option Nat :=
  match c with
  | 'a' => some 7
  | 'b' => some 8
  | 'f' => some 12
  | 'n' => some 10
  | 'r' => some 13
  | 't' => some 9
  | 'v' => some 11
  | '\\' => some 92
  | _ => none

def categoryEscape? (c : Char) : Option SetItem :=
  match c with
  | 'd' => some (.category .digit false)
  | 'D' => some (.category .digit true)
  | 's' => some (.category .blank false)
  | 'S' => some (.category .blank true)
  | 'w' => some (.category .word false)
  | 'W' => some (.category .word true)
  | _ => none

def anchorEscape? (c : Char) : Option Anchor :=
  match c with
  | 'A' => some .textStart
  | 'Z' => some .textEnd
  | 'b' => some .boundary
  | 'B' => some .noBoundary
  | _ => none

def codeWidth? (c : Char) : Option Nat :=
  match c with
  | 'x' => some 2
  | 'u' => some 4
  | 'U' => some 8
  | _ => none

def readCode (source : Source) (t : Token) (width : Nat) (rest : List Token) :
    Except Fault (Nat × List Token) :=
  let (digits, rest) := Source.takeWhile isHex width rest
  let code := readHex digits
  if digits.length ≠ width then
    .error (source.fault rest (.incompleteEscape (t.text ++ digits)) t.start)
  else if 0x10ffff < code then
    .error (source.fault rest (.badEscape (t.text ++ digits)) t.start)
  else .ok (code, rest)

def readNamed (source : Source) (t : Token) (rest : List Token) : Except Fault (Nat × List Token) :=
  match follow? '\x7b' rest with
  | none => .error (source.faultBack rest .missingBrace 0)
  | some rest => do
    let (name, rest) ← source.takeUntil '\x7d' "character name" [] rest
    match characterNamed? name with
    | some code => return (code, rest)
    | none => .error (source.fault rest (.unknownCharacterName name) t.start)

/-- A character other than a digit that is escaped: itself, unless it is a letter. -/
def readLiteralEscape (source : Source) (t : Token) (rest : List Token) :
    Except Fault (Nat × List Token) :=
  if isAsciiLetter t.char then .error (source.fault rest (.badEscape t.text) t.start)
  else .ok (t.char.toNat, rest)

def readSetEscape (source : Source) (t : Token) (rest : List Token) :
    Except Fault (SetItem × List Token) :=
  let one (result : Except Fault (Nat × List Token)) : Except Fault (SetItem × List Token) := do
    let (code, rest) ← result
    return (.one code, rest)
  match controlEscape? t.char with
  | some code => .ok (.one code, rest)
  | none =>
  match categoryEscape? t.char with
  | some item => .ok (item, rest)
  | none =>
  match codeWidth? t.char with
  | some width => one (readCode source t width rest)
  | none =>
  if t.char = 'N' then one (readNamed source t rest)
  else if isOctal t.char then
    let (more, rest) := Source.takeWhile isOctal 2 rest
    let code := readOctal (t.char :: more)
    if 0xff < code then .error (source.fault rest (.octalOutOfRange (t.text ++ more)) t.start)
    else .ok (.one code, rest)
  else if t.char.isDigit then .error (source.fault rest (.badEscape t.text) t.start)
  else one (readLiteralEscape source t rest)

/-- A reference to a group by its number, or a character by three octal digits. -/
def readNumberEscape (source : Source) (groups : Groups) (t : Token) (rest : List Token) :
    Except Fault (Node × List Token) :=
  let (second, rest) := Source.takeWhile Char.isDigit 1 rest
  let (third, rest) :=
    if isOctal t.char && !second.isEmpty && second.all isOctal then Source.takeWhile isOctal 1 rest
    else ([], rest)
  let digits := t.char :: second ++ third
  if !third.isEmpty then
    let code := readOctal digits
    if 0xff < code then .error (source.fault rest (.octalOutOfRange ('\\' :: digits)) t.start)
    else .ok (.one code, rest)
  else
    let index := readDecimal digits
    if groups.count ≤ index then .error (source.fault rest (.invalidGroup index) (t.start + 1))
    else if !groups.isClosed index then .error (source.fault rest .openGroup t.start)
    else match groups.lookBehindFault? index with
      | some reason => .error (source.faultBack rest reason 0)
      | none => .ok (.backreference index, rest)

def readEscape (source : Source) (groups : Groups) (t : Token) (rest : List Token) :
    Except Fault (Node × List Token) :=
  let one (result : Except Fault (Nat × List Token)) : Except Fault (Node × List Token) := do
    let (code, rest) ← result
    return (.one code, rest)
  match anchorEscape? t.char with
  | some place => .ok (.anchor place, rest)
  | none =>
  match categoryEscape? t.char with
  | some item => .ok (.set false [item], rest)
  | none =>
  match controlEscape? t.char with
  | some code => .ok (.one code, rest)
  | none =>
  match codeWidth? t.char with
  | some width => one (readCode source t width rest)
  | none =>
  if t.char = 'N' then one (readNamed source t rest)
  else if t.char = '0' then
    let (more, rest) := Source.takeWhile isOctal 2 rest
    .ok (.one (readOctal more), rest)
  else if t.char.isDigit then readNumberEscape source groups t rest
  else one (readLiteralEscape source t rest)

end DataShape.Pattern
