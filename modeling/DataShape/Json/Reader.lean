import DataShape.Json.Token
import DataShape.Value.Key

/-! Reading a JSON text: token by token, with the arrays and objects that are still open on a stack. Of
several entries with one name the last counts, in the place of the first. The grammar is that of JSON texts, with
the words for what is not a number and for infinities; the one departure from it are the escapes for halves of pairs
(see the tokens). -/

namespace DataShape.Json

inductive Frame where
  /-- The elements so far, the last first. -/
  | array (items : List Value)
  /-- The entries so far, and the name of the next. -/
  | object (entries : Entries) (field : String)

/-- What is expected next, inside what is open. -/
inductive State where
  | value (stack : List Frame)
  /-- A value, or the end of an empty array. -/
  | element (stack : List Frame)
  /-- A name, or if it would be the first the end of an empty object. -/
  | name (stack : List Frame) (isFirst : Bool) (entries : Entries)
  | colon (stack : List Frame) (entries : Entries) (field : String)
  /-- What can follow a whole value. -/
  | next (stack : List Frame) (v : Value)

/-- Why reading stops: a complaint about the text from some place on, or a whole number that is too long. -/
inductive Stop where
  | complaint (about : Complaint) (place : List Char)
  | tooManyDigits (count : Nat)

def startValue (stack : List Frame) (lexeme : Lexeme) : Except Stop State :=
  match lexeme.token with
  | .openArray => .ok (.element stack)
  | .openObject => .ok (.name stack Bool.true [])
  | .string s => .ok (.next stack (.str s))
  | .brokenString complaint place => .error (.complaint complaint place)
  | .whole negative digits =>
    if digits.length ≤ digitLimit then
      let n : Int := readDecimal digits
      .ok (.next stack (.int (if negative then -n else n)))
    else .error (.tooManyDigits digits.length)
  | .real x => .ok (.next stack (.float x))
  | .true => .ok (.next stack (.bool Bool.true))
  | .false => .ok (.next stack (.bool Bool.false))
  | .null => .ok (.next stack .null)
  | _ => .error (.complaint .noValue lexeme.text)

def State.step (state : State) (lexeme : Lexeme) : Except Stop State :=
  match state with
  | .value stack => startValue stack lexeme
  | .element stack =>
    match lexeme.token with
    | .closeArray => .ok (.next stack (.list []))
    | _ => startValue (.array [] :: stack) lexeme
  | .name stack isFirst entries =>
    match lexeme.token, isFirst with
    | .string s, _ => .ok (.colon stack entries s)
    | .brokenString complaint place, _ => .error (.complaint complaint place)
    | .closeObject, true => .ok (.next stack (.dict []))
    | _, _ => .error (.complaint .noPropertyName lexeme.text)
  | .colon stack entries field =>
    match lexeme.token with
    | .colon => .ok (.value (.object entries field :: stack))
    | _ => .error (.complaint .noColon lexeme.text)
  | .next [] _ => .error (.complaint .extraData lexeme.text)
  | .next (.array items :: stack) v =>
    match lexeme.token with
    | .comma => .ok (.value (.array (v :: items) :: stack))
    | .closeArray => .ok (.next stack (.list (v :: items).reverse))
    | _ => .error (.complaint .noComma lexeme.text)
  | .next (.object entries field :: stack) v =>
    let entries := Entries.put entries (.str field) v
    match lexeme.token with
    | .comma => .ok (.name stack Bool.false entries)
    | .closeObject => .ok (.next stack (.dict entries))
    | _ => .error (.complaint .noComma lexeme.text)

def State.finish : State → Except Stop Value
  | .next [] v => .ok v
  | .next _ _ => .error (.complaint .noComma [])
  | .value _ | .element _ => .error (.complaint .noValue [])
  | .name _ _ _ => .error (.complaint .noPropertyName [])
  | .colon _ _ _ => .error (.complaint .noColon [])

def valueOf (lexemes : List Lexeme) : Except Stop Value := do
  (← lexemes.foldlM State.step (.value [])).finish

def Stop.failure (cs : List Char) : Stop → Failure
  | .complaint about place => .malformed ⟨about, cs.take (cs.length - place.length)⟩
  | .tooManyDigits count => .tooManyDigits count

def parse (cs : List Char) : Except Failure Value :=
  (valueOf (lexemes cs)).mapError (Stop.failure cs)

def parseUnmarked (cs : List Char) : Except Failure Value :=
  if cs.head? = some '\ufeff' then .error (.malformed ⟨.byteOrderMark, []⟩) else parse cs

end DataShape.Json
