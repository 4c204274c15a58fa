import DataShape.Value.Literal

/-! Writing a value as a JSON text, in one line or with a line for each element, indented by a unit for
each level. -/

namespace DataShape.Json

def escape (c : Char) : List Char :=
  if c = '"' ∨ c = '\\' then ['\\', c]
  else if c = '\n' then ['\\', 'n']
  else if c = '\r' then ['\\', 'r']
  else if c = '\t' then ['\\', 't']
  else if c = '\x08' then ['\\', 'b']
  else if c = '\x0c' then ['\\', 'f']
  else if c.toNat < 0x20 then '\\' :: 'u' :: hexDigits 4 c.toNat
  else [c]

def stringText (s : String) : String :=
  String.ofList ('"' :: (s.toList.flatMap escape ++ ['"']))

def keyText : Value → Outcome String
  | .str s => return s
  | .float x => return x.textIn .json
  | .bool b => return if b then "true" else "false"
  | .null => return "null"
  | .int n => writtenInt n
  | v => throw (.write (.unsupportedKey v.typeName))

def newLine (unit : String) (level : Nat) : String :=
  "\n" ++ String.join (List.replicate level unit)

def enclosed (indent : Option String) (level : Nat) (opening closing : String) (parts : List String) :
    String :=
  if parts.isEmpty then opening ++ closing
  else match indent with
    | none => opening ++ String.intercalate ", " parts ++ closing
    | some unit => opening ++ newLine unit (level + 1)
        ++ String.intercalate ("," ++ newLine unit (level + 1)) parts ++ newLine unit level ++ closing

mutual

def write (indent : Option String) (level : Nat) : Value → Outcome String
  | .null => return "null"
  | .bool b => return if b then "true" else "false"
  | .int n => writtenInt n
  | .float x => return x.textIn .json
  | .str s => return stringText s
  | .list items | .tuple items => do
    return enclosed indent level "[" "]" (← writeElements indent (level + 1) items)
  | .dict entries => do
    return enclosed indent level "\x7b" "\x7d" (← writeEntries indent (level + 1) entries)
  | v => throw (.write (.unsupported v.typeName))

def writeElements (indent : Option String) (level : Nat) : List Value → Outcome (List String)
  | [] => return []
  | v :: vs => do
    let first ← write indent level v
    return first :: (← writeElements indent level vs)

def writeEntries (indent : Option String) (level : Nat) : List (Value × Value) → Outcome (List String)
  | [] => return []
  | (key, v) :: entries => do
    let name ← keyText key
    let text ← write indent level v
    return (stringText name ++ ": " ++ text) :: (← writeEntries indent level entries)

end

/-- The largest number of copies of a text that can be asked for. -/
def indentLimit : Int := 0x8000000000000000

/-- The unit of indentation that a value stands for: nothing for one line, a number of spaces, or a text. -/
def indentUnit : Value → Outcome (Option String)
  | .null => return none
  | .str s => return some s
  | .int n =>
    if -indentLimit ≤ n ∧ n < indentLimit then return some (String.ofList (List.replicate n.toNat ' '))
    else throw (.write .hugeIndent)
  | .bool b => return some (if b then " " else "")
  | v => throw (.write (.badIndent v.fullTypeName))

def text (indent v : Value) : Outcome String := do write (← indentUnit indent) 0 v

end DataShape.Json
