/-! Texts cut at a separator. -/

namespace DataShape

/-- The pieces of a text between separators; there is one more of them than there are separators. -/
def pieces (separator : Char) : List Char → List (List Char)
  | [] => [[]]
  | c :: cs =>
    if c = separator then [] :: pieces separator cs
    else match pieces separator cs with
      | [] => [[c]]
      | piece :: rest => (c :: piece) :: rest

end DataShape
