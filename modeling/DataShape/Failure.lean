import DataShape.Issue
import DataShape.Json.Error
import DataShape.Encoding.Error
import DataShape.FileTree.Error
import DataShape.Call.Error

/-! Everything that can stop an operation, by cause, with the kind and the text that are reported. -/

namespace DataShape

/-- What is wrong with a schema, at the path of the node it is wrong with. -/
inductive Defect where
  | invalidNode (path shown : String)
  | undeclaredRequired (path : String)
  /-- Not a schema, met while a schema was rendered. -/
  | unrecognised
  | invalidRequired (shown : String)
deriving DecidableEq, Repr

def shownPath (path : String) : String := if path = "" then "/" else path

def Defect.message : Defect → String
  | .invalidNode path shown => shownPath path ++ ": invalid schema node " ++ shown
  | .undeclaredRequired path => shownPath path ++ ": \x27required\x27 must list declared properties"
  | .unrecognised => "Invalid schema"
  | .invalidRequired shown => "Invalid required option " ++ shown

inductive KeyError where
  | mutable (typeName : String)
  | signalingNaN
deriving DecidableEq, Repr

def KeyError.message : KeyError → String
  | .mutable typeName => "unhashable type: \x27" ++ typeName ++ "\x27"
  | .signalingNaN => "Cannot hash a signaling NaN value"

/-- Why a value cannot be read as the entries of a mapping. -/
inductive EntriesError where
  | notIterable (typeName : String)
  | notAPair (index length : Nat)
  | notASequence (index : Nat)
  | unhashable (e : KeyError)
deriving DecidableEq, Repr

def EntriesError.message : EntriesError → String
  | .notIterable typeName => "\x27" ++ typeName ++ "\x27 object is not iterable"
  | .notAPair index length => "dictionary update sequence element #" ++ natText index
      ++ " has length " ++ natText length ++ "; 2 is required"
  | .notASequence index =>
      "cannot convert dictionary update sequence element #" ++ natText index ++ " to a sequence"
  | .unhashable e => e.message

inductive WriteError where
  | unsupported (typeName : String)
  | unsupportedKey (typeName : String)
  | badIndent (typeName : String)
  | hugeIndent
deriving DecidableEq, Repr

def WriteError.message : WriteError → String
  | .unsupported typeName => "Object of type " ++ typeName ++ " is not JSON serializable"
  | .unsupportedKey typeName =>
      "keys must be str, int, float, bool or None, not " ++ typeName
  | .badIndent typeName => "can\x27t multiply sequence by non-int of type \x27" ++ typeName ++ "\x27"
  | .hugeIndent => "cannot fit \x27int\x27 into an index-sized integer"

/-- Where a JSON text that was not read came from. -/
inductive JsonSource where
  | text
  | file (path : String)
deriving DecidableEq, Repr

inductive Failure where
  /-- A whole number too long to be written in decimal. -/
  | tooLongToWrite
  /-- A whole number too long to be read from decimal. -/
  | tooLongToRead (digits : Nat)
  | defect (d : Defect)
  /-- A value that does not conform, with all issues. -/
  | invalid (issues : List Issue)
  | missingItem
  /-- A repeat count beyond every bound. -/
  | repetitionTooLarge
  /-- A pattern that asks for ASCII and for full text at once. -/
  | conflictingFlags
  | json (source : JsonSource) (e : Json.Error)
  | undecodable (e : Encoding.Error)
  /-- Neither a text nor bytes, where a JSON text is read. -/
  | notAText (typeName : String)
  | schemaNotFound (path : String)
  | tree (e : FileTree.Error)
  /-- A path that no file can have. -/
  | nullInPath
  | call (e : Call.Error)
  | entries (e : EntriesError)
  | write (e : WriteError)
  /-- A value without entries, where a wrapper is put around it. -/
  | noField (typeName field : String)
  | notAFrame (typeName : String)
  | unknownKind (name : String)
  /-- An issue's fields are fixed once it is made. -/
  | fixedField (field : String)
deriving DecidableEq, Repr

inductive FailureKind where
  | schema | validation | value | type | key | attribute | overflow
  | fileNotFound | frozenField | isADirectory | notADirectory | fileExists | undecodable
deriving DecidableEq, Repr

namespace Failure

def kind : Failure → FailureKind
  | .tooLongToWrite | .tooLongToRead _ | .conflictingFlags | .json _ _ | .unknownKind _ | .nullInPath =>
    .value
  | .defect _ => .schema
  | .invalid _ => .validation
  | .missingItem => .key
  | .repetitionTooLarge => .overflow
  | .undecodable _ => .undecodable
  | .notAText _ | .call _ | .notAFrame _ => .type
  | .schemaNotFound _ => .fileNotFound
  | .tree e => match e.obstacle with
    | .notFound => .fileNotFound
    | .exists => .fileExists
    | .notADirectory => .notADirectory
    | .isADirectory => .isADirectory
  | .entries e => match e with
    | .notAPair _ _ => .value
    | _ => .type
  | .write e => match e with
    | .hugeIndent => .overflow
    | _ => .type
  | .noField _ _ => .attribute
  | .fixedField _ => .frozenField

def message : Failure → String
  | .tooLongToWrite => "Exceeds the limit (" ++ natText digitLimit
      ++ " digits) for integer string conversion; use sys.set_int_max_str_digits() to increase the limit"
  | .tooLongToRead digits => "Exceeds the limit (" ++ natText digitLimit
      ++ " digits) for integer string conversion: value has " ++ natText digits
      ++ " digits; use sys.set_int_max_str_digits() to increase the limit"
  | .defect d => d.message
  | .invalid issues => Issue.report issues
  | .missingItem => "\x27item\x27"
  | .repetitionTooLarge => "the repetition number is too large"
  | .conflictingFlags => "ASCII and UNICODE flags are incompatible"
  | .json .text e => "Invalid JSON schema text: " ++ e.message
  | .json (.file path) e => "Invalid JSON in " ++ path ++ ": " ++ e.message
  | .undecodable e => e.message
  | .notAText typeName => "the JSON object must be str, bytes or bytearray, not " ++ typeName
  | .schemaNotFound path => "Schema not found: " ++ path
  | .tree e => e.message
  | .nullInPath => "embedded null byte"
  | .call e => e.message
  | .entries e => e.message
  | .write e => e.message
  | .noField typeName field => "\x27" ++ typeName ++ "\x27 object has no attribute \x27" ++ field ++ "\x27"
  | .notAFrame typeName => "expected a pandas DataFrame, got " ++ typeName
  | .unknownKind name => quoted name ++ " is not a valid IssueKind"
  | .fixedField field => "cannot assign to field \x27" ++ field ++ "\x27"

end Failure

abbrev Outcome := Except Failure

end DataShape
