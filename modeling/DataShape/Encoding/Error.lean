import DataShape.Number.WholeText

/-! Byte strings that are not a text in their encoding. -/

namespace DataShape.Encoding

inductive Form where
  | utf8
  | utf16 (bigEndian : Bool)
  | utf32 (bigEndian : Bool)
deriving DecidableEq, Repr

def Form.name : Form → String
  | .utf8 => "utf-8"
  | .utf16 bigEndian => if bigEndian then "utf-16-be" else "utf-16-le"
  | .utf32 bigEndian => if bigEndian then "utf-32-be" else "utf-32-le"

inductive Reason where
  | startByte
  | continuationByte
  | endOfData
  | truncated
  | surrogate
  | surrogateCode
  | outOfRange
deriving DecidableEq, Repr

def Reason.message : Reason → String
  | .startByte => "invalid start byte"
  | .continuationByte => "invalid continuation byte"
  | .endOfData => "unexpected end of data"
  | .truncated => "truncated data"
  | .surrogate => "illegal UTF-16 surrogate"
  | .surrogateCode => "code point in surrogate code point range(0xd800, 0xe000)"
  | .outOfRange => "code point not in range(0x110000)"

/-- The bytes that cannot be read, and the number of bytes before them. -/
structure Error where
  form : Form
  reason : Reason
  start : Nat
  bytes : List UInt8
deriving DecidableEq, Repr

def Error.message (e : Error) : String :=
  let place := match e.bytes with
    | [b] => "byte 0x" ++ String.ofList (hexDigits 2 b.toNat) ++ " in position " ++ natText e.start
    | bytes => "bytes in position " ++ natText e.start ++ "-" ++ natText (e.start + bytes.length - 1)
  "\x27" ++ e.form.name ++ "\x27 codec can\x27t decode " ++ place ++ ": " ++ e.reason.message

end DataShape.Encoding
