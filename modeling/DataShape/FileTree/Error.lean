import DataShape.Text.Quoted

/-! Why an operation on a file tree is refused. -/

namespace DataShape.FileTree

inductive Obstacle where
  | notFound
  | exists
  | notADirectory
  | isADirectory
deriving DecidableEq, Repr

namespace Obstacle

def code : Obstacle → Nat
  | .notFound => 2
  | .exists => 17
  | .notADirectory => 20
  | .isADirectory => 21

def description : Obstacle → String
  | .notFound => "No such file or directory"
  | .exists => "File exists"
  | .notADirectory => "Not a directory"
  | .isADirectory => "Is a directory"

end Obstacle

/-- An obstacle and the path at which it stands. -/
structure Error where
  obstacle : Obstacle
  path : String
deriving DecidableEq, Repr

def Error.message (e : Error) : String :=
  "[Errno " ++ natText e.obstacle.code ++ "] " ++ e.obstacle.description ++ ": " ++ quoted e.path

end DataShape.FileTree
