import DataShape.FileTree.Basic

/-! Writing a file changes what stands at its own location only. The path to it leads to the same location
afterwards, so what was written is what is read. -/

namespace DataShape.FileTree

variable {tree : FileTree} {location other : List String} {entry : Entry}

theorem get?_nil : tree.get? [] = some .directory := rfl

theorem get?_set_self (h : location ≠ []) : (tree.set location entry).get? location = some entry := by
  have hnone : (tree.entries.filter fun other => other.1 != location).find? (fun other => other.1 == location) =
      none := by
    rw [List.find?_eq_none]
    intro other hother
    simpa using (List.mem_filter.1 hother).2
  simp [get?, set, h, List.find?_append, hnone]

theorem get?_set_of_ne (h : other ≠ location) : (tree.set location entry).get? other = tree.get? other := by
  unfold get?
  split
  · rfl
  · have hlast : ((location, entry).1 == other) = false := by simpa using h.symm
    rw [set, List.find?_append, List.find?_cons, hlast, List.find?_nil, Option.or_none, List.find?_filter]
    congr 2
    funext e
    by_cases he : e.1 = other
    · simp [he, h]
    · simp [he]

/-- A way through directories does not pass where no directory stands, so what is put there leaves it as
it was. -/
theorem locateFrom_set (hlocation : tree.get? location ≠ some .directory) {start target parts : List String}
    (h : tree.locateFrom start parts = .ok target) :
    (tree.set location entry).locateFrom start parts = .ok target := by
  induction parts generalizing start with
  | nil => exact h
  | cons part parts ih =>
    rw [locateFrom] at h ⊢
    generalize (if part = ".." then start.dropLast else start ++ [part]) = next at h ⊢
    split at h
    · next hlast => rwa [if_pos hlast]
    · next hlast =>
      rw [if_neg hlast]
      split at h
      · cases h
      · cases h
      · next hnext =>
        have hne : next ≠ location := by
          rintro rfl
          exact hlocation hnext
        rw [get?_set_of_ne hne, hnext]
        exact ih h

/-- What is written to a file is what is read from it. -/
theorem readFile_of_writeFile {path : Path} {bytes : List UInt8} {after : FileTree}
    (h : tree.writeFile path bytes = .ok after) : after.readFile path = .ok bytes := by
  unfold writeFile at h
  cases hlocate : tree.locate path with
  | error obstacle =>
    rw [hlocate] at h
    cases h
  | ok location =>
    rw [hlocate] at h
    dsimp only at h
    split at h
    · cases h
    · next hfree =>
      obtain rfl := Except.ok.inj h
      have hne : location ≠ [] := by
        rintro rfl
        exact hfree get?_nil
      have hsame : (tree.set location (.file bytes)).locate path = .ok location := locateFrom_set hfree hlocate
      simp only [readFile, hsame, get?_set_self hne]

end DataShape.FileTree
