import DataShape.Proofs.FileTree.Basic
import Mathlib.Data.List.Infix

/-! What making directories leaves of a tree: everything. Whether it ends well or not, a directory is made only where
nothing stood, at a place that a leading part of the path leads to. -/

namespace DataShape.FileTree

/-- The location that parts lead to from a directory, if they lead anywhere. -/
def Path.locationFrom (start parts : List String) : List String :=
  parts.foldl (fun start part => if part = ".." then start.dropLast else start ++ [part]) start

def Path.location (path : Path) : List String := locationFrom [] path.parts

/-- A leading part of the path, or all of it, leads to the location. -/
def Path.PassesThrough (path : Path) (location : List String) : Prop :=
  ∃ parts, parts <+: path.parts ∧ Path.location ⟨parts⟩ = location

/-- The locations that were written to aside, nothing that stood in the first tree is gone or changed in the second,
and nothing has come but directories on the way of the path. -/
structure GrowsTowards (path : Path) (written : List (List String)) (tree after : FileTree) : Prop where
  kept : ∀ location ∉ written, ∀ entry, tree.get? location = some entry → after.get? location = some entry
  added : ∀ location ∉ written, ∀ entry, tree.get? location = none → after.get? location = some entry →
    entry = .directory ∧ path.PassesThrough location

variable {tree middle after : FileTree} {path : Path} {written : List (List String)}

theorem GrowsTowards.refl (path : Path) (written : List (List String)) (tree : FileTree) :
    GrowsTowards path written tree tree := by
  constructor
  · intro location _ entry h
    exact h
  · intro location _ entry hnone hsome
    rw [hnone] at hsome
    cases hsome

theorem GrowsTowards.trans (first : GrowsTowards path written tree middle)
    (second : GrowsTowards path written middle after) : GrowsTowards path written tree after := by
  constructor
  · intro location hlocation entry h
    exact second.kept location hlocation entry (first.kept location hlocation entry h)
  · intro location hlocation entry hnone hsome
    cases hmiddle : middle.get? location with
    | none => exact second.added location hlocation entry hmiddle hsome
    | some between =>
      have hafter := second.kept location hlocation between hmiddle
      rw [hsome] at hafter
      cases hafter
      exact first.added location hlocation entry hnone hmiddle

theorem Path.PassesThrough.of_parent {location : List String} (h : path.parent.PassesThrough location) :
    path.PassesThrough location := by
  obtain ⟨parts, hparts, hlocation⟩ := h
  exact ⟨parts, hparts.trans (List.dropLast_prefix path.parts), hlocation⟩

theorem GrowsTowards.of_parent (h : GrowsTowards path.parent written tree after) :
    GrowsTowards path written tree after := by
  constructor
  · exact h.kept
  · intro location hlocation entry hnone hsome
    obtain ⟨hentry, hpasses⟩ := h.added location hlocation entry hnone hsome
    exact ⟨hentry, hpasses.of_parent⟩

theorem locateFrom_eq_ok {start parts location : List String} (h : tree.locateFrom start parts = .ok location) :
    location = Path.locationFrom start parts := by
  induction parts generalizing start with
  | nil => exact (Except.ok.inj h).symm
  | cons part parts ih =>
    unfold locateFrom at h
    unfold Path.locationFrom
    rw [List.foldl_cons]
    generalize (if part = ".." then start.dropLast else start ++ [part]) = next at h ⊢
    dsimp only at h
    split at h
    · next hlast =>
      rw [List.isEmpty_iff] at hlast
      subst hlast
      exact (Except.ok.inj h).symm
    · split at h
      · cases h
      · cases h
      · exact ih h

theorem locate_eq_ok {location : List String} (h : tree.locate path = .ok location) : location = path.location :=
  locateFrom_eq_ok h

theorem createDirectory_eq_ok (h : tree.createDirectory path = .ok after) :
    tree.get? path.location = none ∧ after = tree.set path.location .directory := by
  unfold createDirectory at h
  split at h
  · cases h
  · next location hlocate =>
    obtain rfl := locate_eq_ok hlocate
    split at h
    · cases h
    · next hfree =>
      cases h
      simpa using hfree

theorem writeFile_eq_ok {bytes : List UInt8} (h : tree.writeFile path bytes = .ok after) :
    tree.get? path.location ≠ some .directory ∧ after = tree.set path.location (.file bytes) := by
  unfold writeFile at h
  split at h
  · cases h
  · next location hlocate =>
    obtain rfl := locate_eq_ok hlocate
    split at h
    · cases h
    · next hfree =>
      cases h
      exact ⟨hfree, rfl⟩

theorem grows_createDirectory (h : tree.createDirectory path = .ok after) : GrowsTowards path [] tree after := by
  obtain ⟨hfree, rfl⟩ := createDirectory_eq_ok h
  constructor
  · intro location _ entry hentry
    have hne : location ≠ path.location := by
      rintro rfl
      rw [hfree] at hentry
      cases hentry
    rwa [get?_set_of_ne hne]
  · intro location _ entry hnone hsome
    by_cases hlocation : location = path.location
    · subst hlocation
      have hroot : path.location ≠ [] := by
        intro hnil
        rw [hnil, get?_nil] at hfree
        cases hfree
      rw [get?_set_self hroot] at hsome
      cases hsome
      exact ⟨rfl, path.parts, List.prefix_refl _, rfl⟩
    · rw [get?_set_of_ne hlocation, hnone] at hsome
      cases hsome

/-- The directories on the way are made from the outermost missing one inwards, and those that were made before a
failure stay. -/
theorem grows_ensureWithin (tree : FileTree) (path : Path) (depth : Nat) :
    GrowsTowards path [] tree (tree.ensureWithin path depth).2 := by
  induction depth generalizing path with
  | zero =>
    unfold ensureWithin
    split
    · next hcreate => exact grows_createDirectory hcreate
    · split
      · next hdepth => cases hdepth
      · exact .refl path [] tree
  | succ depth ih =>
    unfold ensureWithin
    split
    · next hcreate => exact grows_createDirectory hcreate
    · split
      · next hdepth =>
        cases hdepth
        have hparent := (ih path.parent).of_parent
        split
        · next henclosing =>
          rw [henclosing] at hparent
          exact hparent
        · next henclosing =>
          rw [henclosing] at hparent
          split
          · next hcreate => exact hparent.trans (grows_createDirectory hcreate)
          · exact hparent
      · exact .refl path [] tree

theorem grows_ensureDirectory (tree : FileTree) (path : Path) :
    GrowsTowards path [] tree (tree.ensureDirectory path).2 :=
  grows_ensureWithin tree path path.parts.length

theorem grows_writeFile {bytes : List UInt8} (way : Path) (h : tree.writeFile path bytes = .ok after) :
    GrowsTowards way [path.location] tree after := by
  obtain ⟨-, rfl⟩ := writeFile_eq_ok h
  constructor
  · intro location hlocation entry hentry
    rwa [get?_set_of_ne (fun heq => hlocation (List.mem_singleton.2 heq))]
  · intro location hlocation entry hnone hsome
    rw [get?_set_of_ne (fun heq => hlocation (List.mem_singleton.2 heq)), hnone] at hsome
    cases hsome

/-- Where more was written, less is said. -/
theorem GrowsTowards.weaken (h : GrowsTowards path [] tree after) (written : List (List String)) :
    GrowsTowards path written tree after := by
  constructor
  · intro location _
    exact h.kept location List.not_mem_nil
  · intro location _
    exact h.added location List.not_mem_nil

end DataShape.FileTree
