import DataShape.Proofs.Document
import DataShape.Proofs.Json.LineEnds
import DataShape.Proofs.Schema.Check

/-! A schema is read from a file as it is read from the text in the file: what is accepted, what is refused, and
why. Line ends are made one on the way from a file only, and only the place of a complaint shows it. -/

namespace DataShape
namespace Document

open Json (parseUnmarked)

theorem kind_failureOf (source : JsonSource) (e : Json.Failure) : (failureOf source e).kind = .value := by
  cases e <;> rfl

theorem kind_of_check {v : Value} {e : Failure} (h : checkSchema v "" = .error e) :
    e.kind = .schema ∨ e.kind = .value := by
  rcases Schema.check_eq_error h with rfl | ⟨d, rfl⟩
  · exact .inr rfl
  · exact .inl rfl

theorem kind_of_checked {source : JsonSource} {result : Except Json.Failure Value} {e : Failure}
    (h : checked source result = .error e) : e.kind = .schema ∨ e.kind = .value := by
  cases result with
  | error failure =>
    cases h
    exact .inr (kind_failureOf source failure)
  | ok v =>
    rcases bind_eq_error.1 h with h | ⟨_, -, h⟩
    · exact kind_of_check h
    · cases h

/-- Two sources of one text give the same result, or both fail to be a JSON text. -/
theorem checked_eq_or_malformed {source source' : JsonSource} {result result' : Except Json.Failure Value}
    (h : result.mapError Json.Failure.tooLong? = result'.mapError Json.Failure.tooLong?) :
    checked source result = checked source' result' ∨
      ∃ e e', checked source result = .error e ∧ checked source' result' = .error e' ∧
        e.kind = .value ∧ e'.kind = .value := by
  cases result with
  | ok v =>
    cases result' with
    | ok v' =>
      cases h
      exact .inl rfl
    | error failure' => cases h
  | error failure =>
    cases result' with
    | ok v' => cases h
    | error failure' =>
      exact .inr ⟨_, _, rfl, rfl, kind_failureOf source failure, kind_failureOf source' failure'⟩

theorem load_eq_checked {tree : FileTree} {path : FileTree.Path} {text : String} (hpath : path.hasNull = false)
    (hfile : tree.readFile path = .ok (Encoding.encodeUtf8 text.toList)) :
    load tree path = checked (.file path.text) (parseUnmarked (unifyNewLines text.toList)) := by
  unfold load
  rw [hpath, if_neg Bool.false_ne_true, hfile]
  dsimp only
  rw [Encoding.decodeUtf8_encodeUtf8]

/-- The file and the text in it are read as the same schema, or are refused with the same defect, or fail both for
another cause that has to do with what was to be read. -/
theorem load_agrees_with_text {tree : FileTree} {path : FileTree.Path} {text : String} (hpath : path.hasNull = false)
    (hfile : tree.readFile path = .ok (Encoding.encodeUtf8 text.toList)) :
    (∀ schema, load tree path = .ok schema ↔ ofValue (.str text) = .ok schema) ∧
    (∀ e, e.kind = .schema → (load tree path = .error e ↔ ofValue (.str text) = .error e)) ∧
    ((∃ e, load tree path = .error e ∧ e.kind = .value) ↔ ∃ e, ofValue (.str text) = .error e ∧ e.kind = .value) ∧
    ∀ e, load tree path = .error e ∨ ofValue (.str text) = .error e → e.kind = .schema ∨ e.kind = .value := by
  have hload := load_eq_checked hpath hfile
  have htext : ofValue (.str text) = checked .text (parseUnmarked text.toList) := rfl
  have hkind (e : Failure) (h : load tree path = .error e ∨ ofValue (.str text) = .error e) :
      e.kind = .schema ∨ e.kind = .value := by
    rw [hload, htext] at h
    rcases h with h | h
    · exact kind_of_checked h
    · exact kind_of_checked h
  have hparse := Json.parseUnmarked_unifyNewLines text.toList
  rcases checked_eq_or_malformed hparse with heq | ⟨e, e', he, he', hvalue, hvalue'⟩
  · have hsame : load tree path = ofValue (.str text) := by rw [hload, htext, heq]
    simp only [hsame, iff_self, implies_true, true_and]
    intro e h
    exact hkind e (.inr (or_self_iff.1 h))
  · rw [← hload] at he
    rw [← htext] at he'
    refine ⟨fun schema => ?_, fun failure hfailure => ?_, ?_, hkind⟩
    · rw [he, he']
      constructor
      · rintro ⟨⟩
      · rintro ⟨⟩
    · rw [he, he']
      constructor
      · rintro ⟨rfl⟩
        rw [hvalue] at hfailure
        cases hfailure
      · rintro ⟨rfl⟩
        rw [hvalue'] at hfailure
        cases hfailure
    · exact ⟨fun _ => ⟨e', he', hvalue'⟩, fun _ => ⟨e, he, hvalue⟩⟩

/-- A schema with line ends of all three kinds between its tokens, and a name twice. -/
def mixedLines : String := "\x7b\r\n\"type\": \"any\",\r\"type\":\n\"null\"\r\n\x7d"

/-- The last entry with a name counts, and no line end does. -/
theorem load_text_of_mixed_lines :
    load ⟨[(["user.json"], .file (Encoding.encodeUtf8 mixedLines.toList))]⟩ ⟨["user.json"]⟩ =
      .ok (.ofFields [("type", .str "null")]) := by
  have hfile : FileTree.readFile ⟨[(["user.json"], .file (Encoding.encodeUtf8 mixedLines.toList))]⟩ ⟨["user.json"]⟩ =
      .ok (Encoding.encodeUtf8 mixedLines.toList) := rfl
  have htokens : Json.tokens mixedLines.toList =
      [.openObject, .string "type", .colon, .string "any", .comma, .string "type", .colon, .string "null",
        .closeObject] := by
    decide +kernel
  have hleads : Json.Leads (.value []) (Json.tokens mixedLines.toList) (.next [] (.ofFields [("type", .str "null")])) := by
    rw [htokens]
    iterate 9 refine .cons (fun _ => rfl) ?_
    exact .nil _
  have htext : ofValue (.str mixedLines) = .ok (.ofFields [("type", .str "null")]) := by
    rw [ofValue, hleads.parseUnmarked rfl (by decide)]
    rfl
  exact ((load_agrees_with_text rfl hfile).1 _).2 htext

end Document
end DataShape
