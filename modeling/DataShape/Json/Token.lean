import DataShape.Json.Error
import DataShape.Number.FloatText
import DataShape.Text.CodeUnits

/-! The tokens of a JSON text. Each is kept with the text from its start on, which is what places an
error; a stretch that is no token is one too, and it depends on what is expected there whether it is
the error. Texts have no halves of pairs on their own, so an escape for one is read as the mark for a missing
character, and names that differ in nothing but such escapes are one name. -/

namespace DataShape.Json

inductive Token where
  | openArray | closeArray | openObject | closeObject | comma | colon
  | string (s : String)
  /-- A text that is not closed or holds something it may not, and the text from the fault on. -/
  | brokenString (complaint : Complaint) (place : List Char)
  | whole (negative : Bool) (digits : List Char)
  | real (x : Binary64)
  | true | false | null
  | stray
deriving DecidableEq, Repr

structure Lexeme where
  token : Token
  text : List Char
deriving DecidableEq, Repr

def isSpace (c : Char) : Bool := c = ' ' || c = '\t' || c = '\n' || c = '\r'

def shortEscape? (c : Char) : Option Char :=
  match c with
  | '"' => some '"'
  | '\\' => some '\\'
  | '/' => some '/'
  | 'b' => some '\x08'
  | 'f' => some '\x0c'
  | 'n' => some '\n'
  | 'r' => some '\r'
  | 't' => some '\t'
  | _ => none

def codeUnit? (a b c d : Char) : Option Nat := do
  return ofDigitValues 16 [← hexValue? a, ← hexValue? b, ← hexValue? c, ← hexValue? d]

/-- What the inside of a string comes to: its codes and its length with the closing quote, or what is
wrong and the text from there on. No place is given for a string that is not closed. -/
abbrev Inside := Except (Complaint × Option (List Char)) (List Nat × Nat)

def Inside.cons (code length : Nat) (inside : Inside) : Inside :=
  inside.map fun (codes, n) => (code :: codes, n + length)

/-- Reads a string behind its opening quote. Four digits of a code must not be the last characters of
the text. -/
def inside : List Char → Inside
  | [] => .error (.unterminatedString, none)
  | '"' :: _ => .ok ([], 1)
  | '\\' :: [] => .error (.unterminatedString, none)
  | '\\' :: 'u' :: a :: b :: c :: d :: next :: rest =>
    match codeUnit? a b c d with
    | some unit => .cons unit 6 (inside (next :: rest))
    | none => .error (.badCodeEscape, some ('u' :: a :: b :: c :: d :: next :: rest))
  | '\\' :: 'u' :: rest => .error (.badCodeEscape, some ('u' :: rest))
  | '\\' :: c :: rest =>
    match shortEscape? c with
    | some escaped => .cons escaped.toNat 2 (inside rest)
    | none => .error (.unknownEscape, some ('\\' :: c :: rest))
  | c :: rest =>
    if c.toNat < 0x20 then .error (.controlCharacter, some (c :: rest))
    else .cons c.toNat 1 (inside rest)

def scanString (cs : List Char) : Token × Nat :=
  match inside (cs.drop 1) with
  | .ok (codes, length) => (.string (String.ofList (joinPairs codes)), length + 1)
  | .error (complaint, place) => (.brokenString complaint (place.getD cs), 1)

def leadingDigits (cs : List Char) : List Char := cs.takeWhile Char.isDigit

def wholeDigits (cs : List Char) : List Char :=
  match cs with
  | '0' :: _ => ['0']
  | _ => leadingDigits cs

def fractionDigits (cs : List Char) : List Char :=
  match cs with
  | '.' :: rest => leadingDigits rest
  | _ => []

def scanExponent (cs : List Char) : Int × Nat :=
  match cs with
  | e :: rest =>
    if e = 'e' ∨ e = 'E' then
      let (negative, signed, rest) := match rest with
        | '-' :: rest => (Bool.true, 1, rest)
        | '+' :: rest => (Bool.false, 1, rest)
        | rest => (Bool.false, 0, rest)
      let digits := leadingDigits rest
      if digits.isEmpty then (0, 0)
      else
        let size : Int := readDecimal digits
        (if negative then -size else size, 1 + signed + digits.length)
    else (0, 0)
  | [] => (0, 0)

def scanNumber (negative : Bool) (cs : List Char) : Option (Token × Nat) :=
  let digits := wholeDigits cs
  if digits.isEmpty then none
  else
    let fraction := fractionDigits (cs.drop digits.length)
    let length := digits.length + (if fraction.isEmpty then 0 else fraction.length + 1)
    let (exponent, exponentLength) := scanExponent (cs.drop length)
    if fraction.isEmpty && exponentLength = 0 then some (.whole negative digits, length)
    else some (.real (.ofDecimalText negative digits fraction exponent), length + exponentLength)

def words : List (List Char × Token) :=
  [(['n', 'u', 'l', 'l'], .null), (['t', 'r', 'u', 'e'], .true), (['f', 'a', 'l', 's', 'e'], .false),
    (['N', 'a', 'N'], .real .textNaN), ("Infinity".toList, .real (.infinite Bool.false)),
    ("-Infinity".toList, .real (.infinite Bool.true))]

def scan (cs : List Char) : Token × Nat :=
  match cs with
  | '[' :: _ => (.openArray, 1)
  | ']' :: _ => (.closeArray, 1)
  | '{' :: _ => (.openObject, 1)
  | '}' :: _ => (.closeObject, 1)
  | ',' :: _ => (.comma, 1)
  | ':' :: _ => (.colon, 1)
  | '"' :: _ => scanString cs
  | _ =>
    match words.find? fun word => word.1.isPrefixOf cs with
    | some (word, token) => (token, word.length)
    | none =>
      match cs with
      | '-' :: rest =>
        match scanNumber Bool.true rest with
        | some (token, length) => (token, length + 1)
        | none => (.stray, 1)
      | _ => (scanNumber Bool.false cs).getD (.stray, 1)

/-- The tokens of a text of which the first characters belong to a token before it. -/
def lexemesAfter (taken : Nat) : List Char → List Lexeme
  | [] => []
  | c :: cs =>
    match taken with
    | left + 1 => lexemesAfter left cs
    | 0 =>
      if isSpace c then lexemesAfter 0 cs
      else
        let (token, length) := scan (c :: cs)
        ⟨token, c :: cs⟩ :: lexemesAfter (length - 1) cs

def lexemes (cs : List Char) : List Lexeme := lexemesAfter 0 cs

end DataShape.Json
