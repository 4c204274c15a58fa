import DataShape.Text.Pieces

/-! Names of characters that follow each other, written without what they repeat: a digit in front of a
name stands for that many words at the start of the name before it. -/

namespace DataShape.CharacterName

/-- The names of characters from a first code on, in lines of names separated by semicolons. -/
structure Run where
  first : Nat
  lines : List String

/-- The words of a name that is written after another. -/
def wordsAfter (previous : List (List Char)) (written : List Char) : List (List Char) :=
  match written with
  | [] => [[]]
  | c :: rest =>
    if c.isDigit then previous.take (c.toNat - '0'.toNat) ++ pieces ' ' rest else pieces ' ' written

/-- The code of the name with these words, among written names from a code on. -/
def codeAmong? (words : List (List Char)) (code : Nat) (previous : List (List Char)) :
    List (List Char) → Option Nat
  | [] => none
  | written :: rest =>
    let current := wordsAfter previous written
    if current = words then some code else codeAmong? words (code + 1) current rest

def Run.code? (run : Run) (name : List Char) : Option Nat :=
  codeAmong? (pieces ' ' name) run.first [] (run.lines.flatMap fun line => pieces ';' line.toList)

end DataShape.CharacterName
