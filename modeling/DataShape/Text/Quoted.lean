import DataShape.Text.CharacterClass
import DataShape.Number.WholeText

/-! Quoted texts and byte strings: one line, with a quote that the text does not need escaped where
possible, and an escape for every character that cannot be shown. -/

namespace DataShape
namespace Quoted

/-- Single quotes, unless the text holds a single quote and no double one. -/
def quoteFor (s : List Char) : Char := if s.contains '\'' && !s.contains '"' then '"' else '\''

/-- The escape of a character by its code: two, four or eight digits to base sixteen. -/
def numericEscape (code : Nat) : List Char :=
  if code ≤ 0xff then '\\' :: 'x' :: hexDigits 2 code
  else if code ≤ 0xffff then '\\' :: 'u' :: hexDigits 4 code
  else '\\' :: 'U' :: hexDigits 8 code

def escape (quote c : Char) : List Char :=
  if c = quote ∨ c = '\\' then ['\\', c]
  else if c = '\n' then ['\\', 'n']
  else if c = '\r' then ['\\', 'r']
  else if c = '\t' then ['\\', 't']
  else if CodePoint.isPrintable c.toNat then [c]
  else numericEscape c.toNat

def chars (s : List Char) : List Char :=
  let quote := quoteFor s
  quote :: (s.flatMap (escape quote) ++ [quote])

/-- A byte as it stands between the quotes: bytes outside visible ASCII are escaped. -/
def escapeByte (quote : Char) (b : UInt8) : List Char :=
  let c := Char.ofNat b.toNat
  if c = quote ∨ c = '\\' then ['\\', c]
  else if c = '\n' then ['\\', 'n']
  else if c = '\r' then ['\\', 'r']
  else if c = '\t' then ['\\', 't']
  else if 0x20 ≤ b ∧ b < 0x7f then [c]
  else '\\' :: 'x' :: hexDigits 2 b.toNat

/-- The characters of a byte string between its quotes, after the letter that marks it. -/
def bytes (s : List UInt8) : List Char :=
  let quote := quoteFor (s.map fun b => Char.ofNat b.toNat)
  'b' :: quote :: (s.flatMap (escapeByte quote) ++ [quote])

end Quoted

/-- A text between quotes, with everything escaped that cannot be shown. -/
def quoted (s : String) : String := String.ofList (Quoted.chars s.toList)

def quotedBytes (s : List UInt8) : String := String.ofList (Quoted.bytes s)

end DataShape
