import DataShape.Encoding.Detect
import DataShape.FileTree.Basic
import DataShape.Json.Reader
import DataShape.Json.Writer
import DataShape.Schema.Check
import DataShape.Text.NewLine

/-! Schemas as JSON documents: read from a text, from bytes or from a file, and written to a file. What is
read or written is checked to be a schema. -/

namespace DataShape
namespace Document

/-- The failure for a JSON text from this source that was not read. -/
def failureOf (source : JsonSource) : Json.Failure → Failure
  | .malformed e => .json source e
  | .tooManyDigits count => .tooLongToRead count

def checked (source : JsonSource) (result : Except Json.Failure Value) : Outcome Value :=
  match result with
  | .error e => .error (failureOf source e)
  | .ok v => do
    checkSchema v ""
    return v

/-- The schema of a text, or of bytes in the encoding that they show. -/
def ofValue (v : Value) : Outcome Value :=
  match v with
  | .str s => checked .text (Json.parseUnmarked s.toList)
  | .bytes bs =>
    match Encoding.decodeDetected bs with
    | .error e => .error (.undecodable e)
    | .ok cs => checked .text (Json.parse cs)
  | v => .error (.notAText v.typeName)

def load (tree : FileTree) (path : FileTree.Path) : Outcome Value :=
  if path.hasNull then .error .nullInPath
  else match tree.readFile path with
    | .error e =>
      .error (if e.obstacle = .notFound then .schemaNotFound path.text else .tree e)
    | .ok bytes =>
      match Encoding.decodeUtf8 false bytes with
      | .error e => .error (.undecodable e)
      | .ok cs => checked (.file path.text) (Json.parseUnmarked (unifyNewLines cs))

def storeBytes (tree : FileTree) (path : FileTree.Path) (bytes : List UInt8) : Outcome Unit × FileTree :=
  if path.hasNull then (.error .nullInPath, tree)
  else match tree.writeFile path bytes with
    | .error e => (.error (.tree e), tree)
    | .ok tree => (.ok (), tree)

def makeDirectory (tree : FileTree) (path : FileTree.Path) : Outcome Unit × FileTree :=
  if path.hasNull then (.error .nullInPath, tree)
  else match tree.ensureDirectory path with
    | (.error e, tree) => (.error (.tree e), tree)
    | (.ok (), tree) => (.ok (), tree)

def readText (tree : FileTree) (path : FileTree.Path) : Outcome String :=
  if path.hasNull then .error .nullInPath
  else match tree.readFile path with
    | .error e => .error (.tree e)
    | .ok bytes =>
      match Encoding.decodeUtf8 false bytes with
      | .error e => .error (.undecodable e)
      | .ok cs => .ok (String.ofList cs)

/-- Writes a schema to a file and creates the directories on the way. The text is complete before the
file is touched. -/
def dump (tree : FileTree) (schema : Value) (path : FileTree.Path) (indent : Value) :
    Outcome Unit × FileTree :=
  match checkSchema schema "" with
  | .error e => (.error e, tree)
  | .ok () =>
    match makeDirectory tree path.parent with
    | (.error e, tree) => (.error e, tree)
    | (.ok (), tree) =>
      match Json.text indent schema with
      | .error e => (.error e, tree)
      | .ok text => storeBytes tree path (Encoding.encodeUtf8 text.toList)

end Document
end DataShape
