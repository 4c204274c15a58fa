import DataShape.Proofs.Document
import DataShape.Proofs.FileTree.Growth

/-! What writing a schema to a file does to the tree around the file: nothing, but for directories on the way to it.
This is so whether it ends well or fails, wherever it fails. -/

namespace DataShape
namespace Document

open FileTree (GrowsTowards)

variable {tree after : FileTree} {path : FileTree.Path} {e : Failure}

/-- Directories that were made stay where they are, and a failure is one of the tree or of the path. -/
theorem grows_makeDirectory (tree : FileTree) (path : FileTree.Path) :
    GrowsTowards path [] tree (makeDirectory tree path).2 ∧
      ∀ e, (makeDirectory tree path).1 = .error e → e.kind ≠ .schema := by
  have hgrows := FileTree.grows_ensureDirectory tree path
  unfold makeDirectory
  split
  · refine ⟨.refl path [] tree, ?_⟩
    rintro _ ⟨rfl⟩
    decide
  · split
    · next obstacle after hensure =>
      rw [hensure] at hgrows
      refine ⟨hgrows, ?_⟩
      rintro _ ⟨rfl⟩
      obtain ⟨kind, place⟩ := obstacle
      cases kind <;> simp [Failure.kind]
    · next hensure =>
      rw [hensure] at hgrows
      exact ⟨hgrows, fun e h => by cases h⟩

theorem storeBytes_eq_error {bytes : List UInt8} (h : storeBytes tree path bytes = (.error e, after)) :
    after = tree ∧ e.kind ≠ .schema := by
  unfold storeBytes at h
  split at h
  · cases h
    exact ⟨rfl, by decide⟩
  · split at h
    · next obstacle _ =>
      cases h
      obtain ⟨kind, place⟩ := obstacle
      refine ⟨rfl, ?_⟩
      cases kind <;> simp [Failure.kind]
    · cases h

theorem storeBytes_eq_ok {bytes : List UInt8} (h : storeBytes tree path bytes = (.ok (), after)) :
    tree.writeFile path bytes = .ok after := by
  unfold storeBytes at h
  split at h
  · cases h
  · split at h
    · cases h
    · next hwrite =>
      cases h
      exact hwrite

theorem kind_of_isWriteFailure (h : Json.IsWriteFailure e) : e.kind ≠ .schema := by
  rcases h with rfl | ⟨cause, rfl⟩
  · decide
  · cases cause <;> simp [Failure.kind]

/-- A dump that fails leaves all files and directories as they were, and nothing new but directories on the way to the
file; one that refuses the schema leaves the tree as it was. A dump that ends well leaves the text of the schema in the
file, and everything else as one that fails. -/
theorem dump_damages_nothing {schema indent : Value} {result : Outcome Unit}
    (h : dump tree schema path indent = (result, after)) :
    (∀ e, result = .error e →
      GrowsTowards path.parent [] tree after ∧ (e.kind = .schema → after = tree)) ∧
    (result = .ok () →
      (∃ text, Json.text indent schema = .ok text ∧
        after.readFile path = .ok (Encoding.encodeUtf8 text.toList)) ∧
      tree.get? path.location ≠ some .directory ∧ GrowsTowards path.parent [path.location] tree after) := by
  obtain ⟨hmade, hdirectory⟩ := grows_makeDirectory tree path.parent
  unfold dump at h
  split at h
  · -- The schema is refused before anything is touched.
    cases h
    refine ⟨fun e _ => ⟨.refl _ _ _, fun _ => rfl⟩, fun h => by cases h⟩
  · split at h
    · next made hmake =>
      rw [hmake] at hmade hdirectory
      cases h
      refine ⟨?_, fun h => by cases h⟩
      rintro _ ⟨rfl⟩
      exact ⟨hmade, fun hkind => absurd hkind (hdirectory _ rfl)⟩
    · next made hmake =>
      rw [hmake] at hmade
      split at h
      · next htext =>
        cases h
        refine ⟨?_, fun h => by cases h⟩
        rintro _ ⟨rfl⟩
        have hkind := kind_of_isWriteFailure (Json.isWriteFailure_of_text htext)
        exact ⟨hmade, fun hschema => absurd hschema hkind⟩
      · next text htext =>
        constructor
        · rintro e rfl
          obtain ⟨rfl, hkind⟩ := storeBytes_eq_error h
          exact ⟨hmade, fun hschema => absurd hschema hkind⟩
        · rintro rfl
          have hwrite := storeBytes_eq_ok h
          refine ⟨⟨text, htext, FileTree.readFile_of_writeFile hwrite⟩, ?_, ?_⟩
          · intro hold
            exact (FileTree.writeFile_eq_ok hwrite).1 (hmade.kept _ List.not_mem_nil _ hold)
          · exact (hmade.weaken _).trans (FileTree.grows_writeFile _ hwrite)

/-- A directory with one file. -/
def oneSchema : FileTree := ⟨[(["schemas"], .directory), (["schemas", "user.json"], .file [0x7b, 0x7d])]⟩

/-- A schema with a byte string in it, which has no JSON text. -/
def schemaWithBytes : Value := .ofFields [("type", .str "any"), ("example", .bytes [0x61])]

/-- The directory that is made for the file stays empty, beside a file that stays. -/
theorem dump_bytes_damages_nothing :
    ∃ after, dump oneSchema schemaWithBytes ⟨["schemas", "old", "user.json"]⟩ (.int 2) =
        (.error (.write (.unsupported "bytes")), after) ∧
      after.get? ["schemas", "user.json"] = some (.file [0x7b, 0x7d]) ∧
      after.get? ["schemas", "old"] = some .directory ∧ after.get? ["schemas", "old", "user.json"] = none := by
  obtain ⟨after, h⟩ : ∃ after, dump oneSchema schemaWithBytes ⟨["schemas", "old", "user.json"]⟩ (.int 2) =
      (.error (.write (.unsupported "bytes")), after) := ⟨_, rfl⟩
  obtain ⟨hgrows, -⟩ := (dump_damages_nothing h).1 _ rfl
  refine ⟨after, h, hgrows.kept _ List.not_mem_nil _ rfl, ?_⟩
  cases h
  exact ⟨rfl, rfl⟩

end Document
end DataShape
