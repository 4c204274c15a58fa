import DataShape.Encoding.Utf8
import DataShape.Encoding.Wide

/-! The form of a stored JSON text, seen from its first bytes: by a byte order mark, or by where the zeros
are in the first two characters, which are ASCII. -/

namespace DataShape.Encoding

/-- The form of a stored text and the length of its byte order mark. -/
def detect : List UInt8 → Form × Nat
  | 0x00 :: 0x00 :: 0xfe :: 0xff :: _ => (.utf32 true, 4)
  | 0xff :: 0xfe :: 0x00 :: 0x00 :: _ => (.utf32 false, 4)
  | 0xfe :: 0xff :: _ => (.utf16 true, 2)
  | 0xff :: 0xfe :: _ => (.utf16 false, 2)
  | 0xef :: 0xbb :: 0xbf :: _ => (.utf8, 3)
  | a :: b :: c :: d :: _ =>
    if a = 0 then (if b = 0 then .utf32 true else .utf16 true, 0)
    else if b = 0 then (if c = 0 ∧ d = 0 then .utf32 false else .utf16 false, 0)
    else (.utf8, 0)
  | [a, b] => (if a = 0 then .utf16 true else if b = 0 then .utf16 false else .utf8, 0)
  | _ => (.utf8, 0)

/-- The characters of a stored text in the form that is detected. The byte order mark is left out, and
counts for the places of errors in the wide forms only. -/
def decodeDetected (bs : List UInt8) : Except Error (List Char) :=
  match detect bs with
  | (.utf8, mark) => decodeUtf8 true (bs.drop mark)
  | (.utf16 bigEndian, mark) => decodeUtf16 bigEndian mark (bs.drop mark)
  | (.utf32 bigEndian, mark) => decodeUtf32 bigEndian mark (bs.drop mark)

end DataShape.Encoding
