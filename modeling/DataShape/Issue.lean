import DataShape.Text.Quoted

/-! What validation reports: issues of three kinds, each with a message and the location of the
offending value, and how a list of them is written. -/

namespace DataShape

inductive IssueKind where
  /-- The schema itself is not usable there. -/
  | invalidSchema
  /-- The value is of another kind than the schema asks. -/
  | invalidType
  /-- The value breaks a constraint. -/
  | invalidValue
deriving DecidableEq, Repr

namespace IssueKind

def all : List IssueKind := [.invalidSchema, .invalidType, .invalidValue]

def name : IssueKind → String
  | .invalidSchema => "INVALID_SCHEMA"
  | .invalidType => "INVALID_TYPE"
  | .invalidValue => "INVALID_VALUE"

def ofName? (s : String) : Option IssueKind := all.find? fun kind => kind.name == s

end IssueKind

/-- One reported failure. The path is a chain of `/step`, empty for the whole document. -/
structure Issue where
  kind : IssueKind
  message : String
  path : String
deriving DecidableEq, Repr

namespace Issue

/-- The same issue, seen from further out. -/
def under (outer : String) (issue : Issue) : Issue := { issue with path := outer ++ issue.path }

def line (issue : Issue) : String :=
  issue.message ++ " (at " ++ (if issue.path = "" then "/" else issue.path) ++ ")"

def report (issues : List Issue) : String := String.intercalate "\n" (issues.map line)

def fields (issue : Issue) : String :=
  "ValidationIssue(kind=<IssueKind." ++ issue.kind.name ++ ": " ++ quoted issue.kind.name
    ++ ">, message=" ++ quoted issue.message ++ ", path=" ++ quoted issue.path ++ ")"

@[simp] theorem under_kind (outer : String) (issue : Issue) : (issue.under outer).kind = issue.kind := rfl

@[simp] theorem under_message (outer : String) (issue : Issue) :
    (issue.under outer).message = issue.message := rfl

@[simp] theorem under_path (outer : String) (issue : Issue) :
    (issue.under outer).path = outer ++ issue.path := rfl

theorem under_under (a b : String) (issue : Issue) :
    (issue.under b).under a = issue.under (a ++ b) := by
  simp [under, String.append_assoc]

end Issue
end DataShape
