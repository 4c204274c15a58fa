import DataShape.Text.Quoted

/-! Calls whose arguments do not fit the parameters. -/

namespace DataShape.Call

inductive Error where
  /-- An argument given by a name that is no parameter. -/
  | unexpectedKeyword (function keyword : String)
  /-- A parameter given by position and by name. -/
  | repeatedArgument (function keyword : String)
  /-- More arguments by position than there are places: at least and at most so many are taken. -/
  | tooManyPositional (function : String) (least most given keywordOnly : Nat)
  /-- Parameters without a default that were not given. -/
  | missingArguments (function : String) (names : List String)
deriving DecidableEq, Repr

namespace Error

def plural (n : Nat) : String := if n = 1 then "" else "s"

def listed : List String → String
  | [] => ""
  | [a] => quoted a
  | [a, b] => quoted a ++ " and " ++ quoted b
  | names =>
    String.intercalate ", " (names.dropLast.map quoted) ++ ", and " ++ quoted (names.getLastD "")

def message : Error → String
  | .unexpectedKeyword function keyword =>
    function ++ "() got an unexpected keyword argument \x27" ++ keyword ++ "\x27"
  | .repeatedArgument function keyword =>
    function ++ "() got multiple values for argument \x27" ++ keyword ++ "\x27"
  | .tooManyPositional function least most given keywordOnly =>
    let range := if least = most then natText most
      else "from " ++ natText least ++ " to " ++ natText most
    let ending := if least = most then plural most else "s"
    let extra := if keywordOnly = 0 then ""
      else " positional argument" ++ plural given ++ " (and " ++ natText keywordOnly
        ++ " keyword-only argument" ++ plural keywordOnly ++ ")"
    let verb := if given = 1 ∧ keywordOnly = 0 then "was" else "were"
    function ++ "() takes " ++ range ++ " positional argument" ++ ending ++ " but " ++ natText given
      ++ extra ++ " " ++ verb ++ " given"
  | .missingArguments function names =>
    function ++ "() missing " ++ natText names.length ++ " required positional argument"
      ++ plural names.length ++ ": " ++ listed names

end Error
end DataShape.Call
