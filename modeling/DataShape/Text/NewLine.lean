/-! Line ends of one kind: a carriage return, alone or before a line feed, is read as a line feed. -/

namespace DataShape

/-- The same text with a line feed for every line end. -/
def unifyNewLines : List Char → List Char
  | '\r' :: '\n' :: rest => '\n' :: unifyNewLines rest
  | c :: rest => (if c = '\r' then '\n' else c) :: unifyNewLines rest
  | [] => []

end DataShape
