import DataShape.Number.WholeText

/-! What is wrong with a JSON text, and where: line and column counted from one, and the number of
characters before it. -/

namespace DataShape.Json

inductive Complaint where
  | byteOrderMark
  | noValue
  | noPropertyName
  | noColon
  | noComma
  | extraData
  | unterminatedString
  | controlCharacter
  | unknownEscape
  | badCodeEscape
deriving DecidableEq, Repr

def Complaint.message : Complaint → String
  | .byteOrderMark => "Unexpected UTF-8 BOM (decode using utf-8-sig)"
  | .noValue => "Expecting value"
  | .noPropertyName => "Expecting property name enclosed in double quotes"
  | .noColon => "Expecting ':' delimiter"
  | .noComma => "Expecting ',' delimiter"
  | .extraData => "Extra data"
  | .unterminatedString => "Unterminated string starting at"
  | .controlCharacter => "Invalid control character at"
  | .unknownEscape => "Invalid \\escape"
  | .badCodeEscape => "Invalid \\uXXXX escape"

/-- A complaint and the part of the text before the place it is about. -/
structure Error where
  complaint : Complaint
  before : List Char
deriving DecidableEq, Repr

namespace Error

def line (e : Error) : Nat := e.before.count '\n' + 1

def column (e : Error) : Nat := (e.before.reverse.takeWhile (· != '\n')).length + 1

def message (e : Error) : String :=
  e.complaint.message ++ ": line " ++ natText e.line ++ " column " ++ natText e.column
    ++ " (char " ++ natText e.before.length ++ ")"

end Error

inductive Failure where
  | malformed (e : Error)
  /-- A whole number with more digits than are read. -/
  | tooManyDigits (count : Nat)
deriving DecidableEq, Repr

end DataShape.Json
