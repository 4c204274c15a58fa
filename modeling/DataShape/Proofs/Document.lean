import DataShape.Document
import DataShape.Proofs.Encoding.Utf8
import DataShape.Proofs.FileTree.Basic
import DataShape.Proofs.Json.Reader
import DataShape.Proofs.Schema.Stored

/-! Schemas in files. A schema that was written to a file is read from it as what a JSON text keeps of it, and
is still a schema. -/

namespace DataShape
namespace Document

open Json (IsBlank FloatReadsBack)

/-- A text is only indented by white space if that is what it is to be indented by. -/
theorem isBlank_of_indentUnit {indent : Value} (h : ∀ s, indent = .str s → ∀ c ∈ s.toList, Json.isSpace c = true)
    {unit : Option String} (hunit : Json.indentUnit indent = .ok unit) : IsBlank unit := by
  rintro s rfl
  cases indent with
  | str s' =>
    cases hunit
    exact h s rfl
  | int n =>
    rw [Json.indentUnit] at hunit
    split at hunit
    · cases hunit
      intro c hc
      rw [String.toList_ofList] at hc
      rw [(List.mem_replicate.1 hc).2]
      rfl
    · cases hunit
  | bool b =>
    cases hunit
    intro c hc
    cases b with
    | false => cases hc
    | true =>
      rw [List.mem_singleton.1 (show c ∈ [' '] from hc)]
      rfl
  | _ => cases hunit

theorem readFile_of_storeBytes {tree after : FileTree} {path : FileTree.Path} {bytes : List UInt8}
    (h : storeBytes tree path bytes = (.ok (), after)) :
    path.hasNull = false ∧ after.readFile path = .ok bytes := by
  unfold storeBytes at h
  split at h
  · cases h
  · next hnull =>
    refine ⟨Bool.eq_false_iff.2 hnull, ?_⟩
    split at h
    · cases h
    · next hwrite =>
      cases h
      exact FileTree.readFile_of_writeFile hwrite

/-- A dump that succeeds has checked the schema, written it as a text, and stored the text. -/
theorem of_dump {tree after : FileTree} {schema indent : Value} {path : FileTree.Path}
    (h : dump tree schema path indent = (.ok (), after)) :
    checkSchema schema "" = .ok () ∧ ∃ unit text, Json.indentUnit indent = .ok unit ∧
      Json.write unit 0 schema = .ok text ∧ path.hasNull = false ∧
      after.readFile path = .ok (Encoding.encodeUtf8 text.toList) := by
  unfold dump at h
  split at h
  · cases h
  · next hcheck =>
    refine ⟨hcheck, ?_⟩
    split at h
    · cases h
    · split at h
      · cases h
      · next text htext =>
        obtain ⟨unit, hunit, hwrite⟩ := bind_eq_ok.1 htext
        exact ⟨unit, text, hunit, hwrite, readFile_of_storeBytes h⟩

/-- What is dumped is loaded as what a JSON text keeps of it, and that is a schema again. All of it is kept if
there are no tuples in it and no keys but texts: what is not a number is read as one object that is not, and
everything else as it was. Given are an indentation by white space, binary numbers with
texts that are read as the numbers, and mappings without a key twice, as all are that are built entry by entry. -/
theorem load_of_dump {tree after : FileTree} {schema indent : Value} {path : FileTree.Path}
    (hindent : ∀ s, indent = .str s → ∀ c ∈ s.toList, Json.isSpace c = true)
    (hfloats : schema.Everywhere FloatReadsBack) (hkeys : schema.Everywhere Value.HasDistinctKeys)
    (h : dump tree schema path indent = (.ok (), after)) :
    load after path = .ok schema.jsonForm ∧ checkSchema schema.jsonForm "" = .ok () ∧
      (schema.Everywhere Value.IsJsonShaped → load after path = .ok schema.asRead ∧
        ((schema.Everywhere fun v => ∀ object, v ≠ .float (.nan object)) → load after path = .ok schema)) := by
  obtain ⟨hcheck, unit, text, hunit, hwrite, hnull, hread⟩ := of_dump h
  have hstored : schema.IsStored := ⟨⟨unit, 0, text, hwrite⟩, hfloats, hkeys⟩
  have haccepted := Schema.accepted_jsonForm hstored (Schema.wellFormed_of_check hcheck)
  have hparse := Json.parse_of_write (isBlank_of_indentUnit hindent hunit) hfloats hwrite
  have hload : load after path = .ok schema.jsonForm := by
    rw [load, hnull, if_neg Bool.false_ne_true, hread]
    dsimp only
    rw [Encoding.decodeUtf8_encodeUtf8]
    dsimp only
    rw [hparse, checked, haccepted ""]
    rfl
  refine ⟨hload, haccepted "", fun hshape => ?_⟩
  have hkept := Value.jsonForm_eq_asRead hshape hkeys
  refine ⟨by rw [hload, hkept], fun hnumbers => ?_⟩
  rw [hload, hkept, Value.asRead_eq_self hnumbers]

/-- A schema with keys that have the same text, and with the required names in a tuple. -/
theorem load_dumped_labels :
    ∃ after, dump .empty
        (.ofFields [("type", .str "object"), ("properties", .dict
          [(.bool true, .ofFields [("type", .str "number"), ("minimum", .float (.finite false 1022 0))]),
            (.str "true", .ofFields [("type", .str "string")])]), ("required", .tuple [.str "true"])])
        ⟨["schemas", "labels.json"]⟩ (.str "\t") = (.ok (), after) ∧
      load after ⟨["schemas", "labels.json"]⟩ = .ok
        (.ofFields [("type", .str "object"), ("properties", .ofFields [("true", .ofFields [("type", .str "string")])]),
          ("required", .list [.str "true"])]) := by
  refine Exists.imp (fun after h => ⟨h, (load_of_dump ?_ ?_ ?_ h).1.trans ?_⟩) ⟨_, rfl⟩
  · rintro _ ⟨rfl⟩ c hc
    rw [List.mem_singleton.1 (show c ∈ ['\t'] from hc)]
    rfl
  · have hhalf : Binary64.ReadsBack (.finite false 1022 0) := by
      show Binary64.ofText? (Binary64.text (.finite false 1022 0)).toList = some (.finite false 1022 0)
      decide +kernel
    simp [Value.ofFields, FloatReadsBack, hhalf]
  · have hstr (s : String) : (Value.str s).HasDistinctKeys := Value.hasDistinctKeys_of_not_mapping rfl
    have hbool (b : Bool) : (Value.bool b).HasDistinctKeys := Value.hasDistinctKeys_of_not_mapping rfl
    have hfloat (x : Binary64) : (Value.float x).HasDistinctKeys := Value.hasDistinctKeys_of_not_mapping rfl
    have htuple (items : List Value) : (Value.tuple items).HasDistinctKeys := Value.hasDistinctKeys_of_not_mapping rfl
    simp only [Value.ofFields, List.map_cons, List.map_nil, Value.everywhere_dict, Value.everywhere_str,
      Value.everywhere_bool, Value.everywhere_float, Value.everywhere_tuple, List.forall_mem_cons,
      Value.hasDistinctKeys_dict, hstr, hbool, hfloat, htuple, List.not_mem_nil, false_implies, implies_true, and_true,
      true_and]
    decide
  · rfl

end Document
end DataShape
