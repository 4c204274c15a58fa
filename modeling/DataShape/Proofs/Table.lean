import DataShape.Proofs.Schema.Construction
import DataShape.Proofs.Value.Location
import DataShape.Table

/-! Tables, given by their rows. The rows are validated as the elements of an array, each by itself and in its position.
Rows that are put below others keep their issues, with higher numbers in front. -/

namespace DataShape

namespace Issue

/-- The same issue, with the number that its path starts with raised. -/
def raisedBy (count : Nat) (issue : Issue) : Issue :=
  match issue.path.toList with
  | '/' :: rest =>
    match Value.index? (String.ofList (rest.takeWhile (· ≠ '/'))) with
    | some number =>
      { issue with path := "/" ++ natText (number + count) ++ String.ofList (rest.dropWhile (· ≠ '/')) }
    | none => issue
  | _ => issue

/-- A path that leads nowhere, or that starts with a step. -/
def IsPlaced (issue : Issue) : Prop := issue.path = "" ∨ ∃ rest, issue.path = "/" ++ rest

theorem raisedBy_under {issue : Issue} (h : issue.IsPlaced) (count number : Nat) :
    (issue.under ("/" ++ natText number)).raisedBy count = issue.under ("/" ++ natText (number + count)) := by
  obtain ⟨kind, message, path⟩ := issue
  have hslash : ∀ c ∈ (natText number).toList, decide (c ≠ '/') = true := by
    rintro c hc
    rw [decide_eq_true_eq]
    rintro rfl
    exact Value.slash_not_mem_natText number hc
  -- What follows the number is nothing or starts with a slash, so the number can be read off the path.
  have hsplit : ((natText number).toList ++ path.toList).takeWhile (· ≠ '/') = (natText number).toList ∧
      ((natText number).toList ++ path.toList).dropWhile (· ≠ '/') = path.toList := by
    rw [List.takeWhile_append_of_pos hslash, List.dropWhile_append_of_pos hslash]
    obtain rfl | ⟨rest, rfl⟩ : path = "" ∨ ∃ rest, path = "/" ++ rest := h
    · simp
    · simp [String.toList_append]
  have hpath : ("/" ++ natText number ++ path).toList = '/' :: ((natText number).toList ++ path.toList) := by
    simp [String.toList_append]
  simp only [raisedBy, under, hpath, hsplit, String.ofList_toList, Value.index?_natText]

end Issue

namespace Schema

theorem isPlaced_of_mem_issues {s : Schema} {v : Value} {found : List Issue} (h : s.issues v = .ok found)
    {issue : Issue} (hissue : issue ∈ found) : issue.IsPlaced := by
  rw [issues_eq] at h
  simp only [bind_eq_ok, pure_eq_ok, Except.ok.injEq] at h
  obtain ⟨own, -, below, hbelow, rfl⟩ := h
  rcases List.mem_append.1 hissue with hown | hissue
  · obtain ⟨cause, -, rfl⟩ := List.mem_map.1 hown
    exact .inl rfl
  · obtain ⟨part, -, step, -, -, -, inner, -, rfl⟩ := exists_part_of_mem_partIssues hbelow hissue
    exact .inr ⟨step ++ inner.path, by simp [String.append_assoc]⟩

theorem elementIssues_append (items : Schema) (index : Nat) (first second : List Value) :
    items.elementIssues index (first ++ second) = (do
      let found ← items.elementIssues index first
      return found ++ (← items.elementIssues (index + first.length) second)) := by
  rw [elementIssues_eq, elementParts_append, partIssues_append, ← elementIssues_eq, ← elementIssues_eq]

theorem elementIssues_eq_mapM (items : Schema) (index : Nat) (elements : List Value) :
    items.elementIssues index elements = (do
      let found ← (elements.zipIdx index).mapM fun place => (items.issues place.1).map (atStep (natText place.2))
      return found.flatten) := by
  rw [elementIssues_eq, partIssues, elementParts, List.mapM_map]
  refine congrArg (· >>= _) (congrArg ((elements.zipIdx index).mapM ·) (funext fun place => ?_))
  cases h : items.issues place.1 <;> simp [Part.issues, Step.text, h, Except.map]

theorem issues_array_list (items : Schema) (elements : List Value) :
    (array items).issues (.list elements) = items.elementIssues 0 elements := by
  rw [issues]
  show (do return [] ++ (← items.elementIssues 0 elements)) = _
  cases items.elementIssues 0 elements <;> rfl

/-- To count on from a higher index changes no more than the numbers in front of the paths. -/
theorem elementIssues_raised (items : Schema) (index count : Nat) (elements : List Value) :
    items.elementIssues (index + count) elements =
      (items.elementIssues index elements).map (List.map (·.raisedBy count)) := by
  induction elements generalizing index with
  | nil => rfl
  | cons v vs ih =>
    rw [elementIssues, elementIssues, Nat.add_right_comm, ih]
    cases hfirst : items.issues v with
    | error e => rfl
    | ok first =>
      have hstep : atStep (natText (index + count)) first = (atStep (natText index) first).map (·.raisedBy count) := by
        rw [atStep, atStep, List.map_map]
        refine List.map_congr_left fun issue hissue => ?_
        exact (Issue.raisedBy_under (isPlaced_of_mem_issues hfirst hissue) count index).symm
      rw [ok_bind, ok_bind, hstep]
      cases items.elementIssues (index + 1) vs with
      | error e => rfl
      | ok rest => simp [Except.map]

end Schema

variable (schema : Value)

theorem validateRows_eq_elementIssues (index : Nat) (rows : List Value) :
    validateRows schema index rows = (Schema.ofValue schema).elementIssues index rows := by
  induction rows generalizing index with
  | nil => rfl
  | cons row rows ih =>
    rw [validateRows, Schema.elementIssues, ih, validate]
    cases (Schema.ofValue schema).issues row with
    | error e => rfl
    | ok found => rfl

theorem validateRows_append (index : Nat) (first second : List Value) :
    validateRows schema index (first ++ second) = (do
      let found ← validateRows schema index first
      return found ++ (← validateRows schema (index + first.length) second)) := by
  simp only [validateRows_eq_elementIssues, Schema.elementIssues_append]

theorem validateRows_raised (index count : Nat) (rows : List Value) :
    validateRows schema (index + count) rows = (validateRows schema index rows).map (List.map (·.raisedBy count)) := by
  rw [validateRows_eq_elementIssues, validateRows_eq_elementIssues, Schema.elementIssues_raised]

/-- The rows of a table, however they come out of it, are validated as the elements of an array, each by itself with
its position in front of the paths. Nothing else of a table is looked at: tables with the same rows have the same
issues. Rows that are put below have their issues behind the others, with higher numbers. -/
theorem validateTable_row_by_row {Table : Type} (rows : Table → List Value) (hschema : schema.elements? = none)
    (table : Table) :
    validateTable rows schema (.inr table) =
      validate (.ofFields [("type", .str "array"), ("items", schema)]) (.list (rows table)) "" ∧
    validateTable rows schema (.inr table) = (do
      let found ← (rows table).zipIdx.mapM fun place =>
        (validate schema place.1 "").map (List.map (·.under ("/" ++ natText place.2)))
      return found.flatten) ∧
    (∀ other : Table, rows other = rows table →
      validateTable rows schema (.inr other) = validateTable rows schema (.inr table)) ∧
    ∀ below : Table, validateRows schema 0 (rows table ++ rows below) = (do
      let first ← validateTable rows schema (.inr table)
      let second ← validateTable rows schema (.inr below)
      return first ++ second.map (·.raisedBy (rows table).length)) := by
  simp only [validateTable]
  refine ⟨?_, ?_, fun other hrows => by rw [hrows], fun below => ?_⟩
  · show _ = validate (Builder.array schema) _ _
    rw [validate_root, Schema.ofValue_array (Builder.isArrayOf_array hschema), Schema.issues_array_list,
      validateRows_eq_elementIssues]
  · rw [validateRows_eq_elementIssues, Schema.elementIssues_eq_mapM]
    simp only [validate_root]
    rfl
  · rw [validateRows_append, validateRows_raised]
    refine congrArg (_ >>= ·) (funext fun first => ?_)
    cases validateRows schema 0 (rows below) with
    | error e => rfl
    | ok second => rfl

/-- Rows with a name each. -/
def nameRows : Value := .ofFields [("type", .str "object"),
  ("properties", .ofFields [("name", .ofFields [("type", .str "string")])])]

/-- A table of rows that have labels. -/
def labelledNames (first second : String) : List (String × Value) :=
  [(first, .ofFields [("name", .str "a")]), (second, .ofFields [("name", .null)])]

/-- The name that is missing is reported in the row one, and in the row three of twice the table, whatever the labels. -/
theorem validate_labelled_names :
    validateTable (List.map Prod.snd) nameRows (.inr (labelledNames "x" "y")) =
      .ok [⟨.invalidType, "Invalid type, expected string, got None", "/1/name"⟩] ∧
    validateTable (List.map Prod.snd) nameRows (.inr (labelledNames "x" "y")) =
      validateTable (List.map Prod.snd) nameRows (.inr (labelledNames "7" "7")) ∧
    validateRows nameRows 0 ((labelledNames "x" "y").map Prod.snd ++ (labelledNames "7" "7").map Prod.snd) =
      .ok [⟨.invalidType, "Invalid type, expected string, got None", "/1/name"⟩,
        ⟨.invalidType, "Invalid type, expected string, got None", "/3/name"⟩] := by
  obtain ⟨harray, -, hlabels, hbelow⟩ :=
    validateTable_row_by_row nameRows (List.map Prod.snd) rfl (labelledNames "x" "y")
  exact ⟨harray.trans rfl, (hlabels (labelledNames "7" "7") rfl).symm, (hbelow (labelledNames "7" "7")).trans rfl⟩

end DataShape
