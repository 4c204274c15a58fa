import DataShape.FileTree.Error
import DataShape.FileTree.Path

/-! Trees of files and directories, as a list of what stands at each location. A location is a chain of
names from the root down; the root is always a directory. -/

namespace DataShape

inductive FileTree.Entry where
  | directory
  | file (bytes : List UInt8)
deriving DecidableEq, Repr

structure FileTree where
  entries : List (List String × FileTree.Entry)
deriving DecidableEq, Repr

namespace FileTree

def empty : FileTree := ⟨[]⟩

def get? (tree : FileTree) (location : List String) : Option Entry :=
  if location.isEmpty then some .directory
  else (tree.entries.find? fun entry => entry.1 == location).map (·.2)

def set (tree : FileTree) (location : List String) (entry : Entry) : FileTree :=
  ⟨(tree.entries.filter fun other => other.1 != location) ++ [(location, entry)]⟩

/-- The location that parts lead to from a directory. All but the last of them must be directories; the
last need not be there. -/
def locateFrom (tree : FileTree) (start : List String) : List String → Except Obstacle (List String)
  | [] => .ok start
  | part :: parts =>
    let next := if part = ".." then start.dropLast else start ++ [part]
    if parts.isEmpty then .ok next
    else match tree.get? next with
      | none => .error .notFound
      | some (.file _) => .error .notADirectory
      | some .directory => tree.locateFrom next parts

def locate (tree : FileTree) (path : Path) : Except Obstacle (List String) := tree.locateFrom [] path.parts

def isDirectory (tree : FileTree) (path : Path) : Bool :=
  match tree.locate path with
  | .ok location => tree.get? location == some .directory
  | .error _ => false

def readFile (tree : FileTree) (path : Path) : Except Error (List UInt8) :=
  match tree.locate path with
  | .error obstacle => .error ⟨obstacle, path.text⟩
  | .ok location =>
    match tree.get? location with
    | none => .error ⟨.notFound, path.text⟩
    | some .directory => .error ⟨.isADirectory, path.text⟩
    | some (.file bytes) => .ok bytes

def writeFile (tree : FileTree) (path : Path) (bytes : List UInt8) : Except Error FileTree :=
  match tree.locate path with
  | .error obstacle => .error ⟨obstacle, path.text⟩
  | .ok location =>
    if tree.get? location = some .directory then .error ⟨.isADirectory, path.text⟩
    else .ok (tree.set location (.file bytes))

def createDirectory (tree : FileTree) (path : Path) : Except Error FileTree :=
  match tree.locate path with
  | .error obstacle => .error ⟨obstacle, path.text⟩
  | .ok location =>
    if (tree.get? location).isSome then .error ⟨.exists, path.text⟩
    else .ok (tree.set location .directory)

/-- The tree with a directory at a path, which may be there already. The first `depth` parts of the path
that lack are created; those created before a failure stay. -/
def ensureWithin (tree : FileTree) (path : Path) (depth : Nat) : Except Error Unit × FileTree :=
  match tree.createDirectory path with
  | .ok tree => (.ok (), tree)
  | .error e =>
    match e.obstacle, depth with
    | .notFound, depth + 1 =>
      match tree.ensureWithin path.parent depth with
      | (.error e, tree) => (.error e, tree)
      | (.ok (), tree) =>
        match tree.createDirectory path with
        | .ok tree => (.ok (), tree)
        | .error e => (if tree.isDirectory path then .ok () else .error e, tree)
    | _, _ => (if tree.isDirectory path then .ok () else .error e, tree)

def ensureDirectory (tree : FileTree) (path : Path) : Except Error Unit × FileTree :=
  tree.ensureWithin path path.parts.length

/-- Everything in a tree, in order of its written path; a directory's ends in a slash. -/
def listing (tree : FileTree) : List String :=
  let written := tree.entries.map fun (location, entry) =>
    String.intercalate "/" location ++ (if entry = .directory then "/" else "")
  written.mergeSort fun a b => a ≤ b

end FileTree
end DataShape
