import DataShape.Text.Pieces

/-! Relative paths: names separated by slashes. Empty names and `.` do not count; `..` does, as what it
leads to depends on the tree. -/

namespace DataShape.FileTree

structure Path where
  parts : List String
deriving DecidableEq, Repr

namespace Path

def ofText (s : String) : Path :=
  ⟨((pieces '/' s.toList).map String.ofList).filter fun piece => piece ≠ "" ∧ piece ≠ "."⟩

def text (path : Path) : String :=
  if path.parts.isEmpty then "." else String.intercalate "/" path.parts

def parent (path : Path) : Path := ⟨path.parts.dropLast⟩

def hasNull (path : Path) : Bool := path.parts.any fun part => part.toList.contains '\x00'

end Path
end DataShape.FileTree
