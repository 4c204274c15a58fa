import DataShape.Proofs.Validation.Parts

/-! The path at which a value stands. Validation can carry it along and write it into each issue as it is found, or put
it in front of all issues in the end: the outcome is the same, and nothing but the paths depends on it. -/

namespace DataShape

/-- The issue of a cause that lies at a path. -/
def Cause.issueAt (path : String) (cause : Cause) : Issue := ⟨cause.kind, cause.message, path⟩

theorem Cause.issueAt_append (p q : String) (cause : Cause) : cause.issueAt (p ++ q) = (cause.issueAt q).under p := rfl

theorem Cause.issueAt_empty (cause : Cause) : cause.issueAt "" = cause.issue := rfl

namespace Schema

/-- Every issue of a value that stands at a path. The path grows by one step on the way into each part, and each issue
takes it as it is where the issue is found. -/
def issuesAt (path : String) (s : Schema) (v : Value) : Outcome (List Issue) := do
  let own ← s.ownCauses v
  let below ← (s.parts v).attach.mapM fun part => do
    let step ← part.1.step.text
    part.1.schema.issuesAt (path ++ "/" ++ step) part.1.value
  return own.map (·.issueAt path) ++ below.flatten
termination_by sizeOf v
decreasing_by exact Value.sizeOf_lt_of_mem_parts (value_mem_parts part.2)

def partIssuesAt (path : String) (part : Part) : Outcome (List Issue) := do
  let step ← part.step.text
  part.schema.issuesAt (path ++ "/" ++ step) part.value

theorem issuesAt_eq (path : String) (s : Schema) (v : Value) :
    s.issuesAt path v = (do
      let own ← s.ownCauses v
      let below ← (s.parts v).mapM (partIssuesAt path)
      return own.map (·.issueAt path) ++ below.flatten) := by
  have hparts : (s.parts v).mapM (partIssuesAt path) =
      (s.parts v).attach.mapM fun part => partIssuesAt path part.1 := by
    conv_lhs => rw [← List.attach_map_subtype_val (s.parts v), List.mapM_map]
    rfl
  rw [issuesAt, hparts]
  rfl

/-- What is put in front of the path is put in front of the path of each issue, and of nothing else. -/
theorem issuesAt_append (p q : String) (s : Schema) (v : Value) :
    s.issuesAt (p ++ q) v = (s.issuesAt q v).map (List.map (·.under p)) := by
  -- Each part is checked at a longer path, so the induction speaks of all paths.
  induction s, v using induction_on_parts generalizing q with
  | step s v ih =>
    have hparts : (s.parts v).mapM (partIssuesAt (p ++ q)) =
        ((s.parts v).mapM (partIssuesAt q)).map (List.map (List.map (·.under p))) := by
      rw [← mapM_map_result]
      refine mapM_congr_of_mem fun part hpart => ?_
      rw [partIssuesAt, partIssuesAt]
      cases part.step.text with
      | error e => rfl
      | ok step =>
        have hpath : p ++ q ++ "/" ++ step = p ++ (q ++ "/" ++ step) := by simp only [String.append_assoc]
        rw [ok_bind, ok_bind, hpath, ih part hpart]
    rw [issuesAt_eq, issuesAt_eq, hparts]
    cases s.ownCauses v with
    | error e => rfl
    | ok own =>
      cases (s.parts v).mapM (partIssuesAt q) with
      | error e => rfl
      | ok below => simp [Except.map, Cause.issueAt_append, List.map_flatten]

/-- Issues that are put together from the parts upwards are those that are found at the empty path. -/
theorem issues_eq_issuesAt (s : Schema) (v : Value) : s.issues v = s.issuesAt "" v := by
  induction s, v using induction_on_parts with
  | step s v ih =>
    rw [issues_eq, issuesAt_eq, partIssues]
    have hparts : (s.parts v).mapM Part.issues = (s.parts v).mapM (partIssuesAt "") := by
      refine mapM_congr_of_mem fun part hpart => ?_
      rw [Part.issues, partIssuesAt, ih part hpart]
      refine congrArg (part.step.text >>= ·) (funext fun step => ?_)
      have hpath : "" ++ "/" ++ step = "/" ++ step ++ "" := by simp
      rw [hpath, issuesAt_append]
      rfl
    simp only [hparts, bind_assoc, pure_bind, Cause.issueAt_empty]

end Schema

theorem validate_eq_issuesAt (schema v : Value) (path : String) :
    validate schema v path = (Schema.ofValue schema).issuesAt path v := by
  rw [← String.append_empty (s := path), Schema.issuesAt_append, ← Schema.issues_eq_issuesAt, String.append_empty]
  rfl

/-- The path is put in front of the path of each issue, and nothing but that depends on it. -/
theorem validate_path_only_prefixes (schema v : Value) (p q : String) :
    validate schema v p = (Schema.ofValue schema).issuesAt p v ∧
    validate schema v (p ++ q) = (validate schema v q).map (List.map (·.under p)) ∧
    (∀ e, validate schema v (p ++ q) = .error e ↔ validate schema v q = .error e) ∧
    (∀ found, validate schema v p = .ok found → ∀ issue ∈ found, ∃ place, issue.path = p ++ place) ∧
    (validate schema v p).map (List.map fun issue => (issue.kind, issue.message)) =
      (validate schema v q).map (List.map fun issue => (issue.kind, issue.message)) := by
  have hput (p q : String) : validate schema v (p ++ q) = (validate schema v q).map (List.map (·.under p)) := by
    rw [validate_eq_issuesAt, validate_eq_issuesAt, Schema.issuesAt_append]
  have hroot (p : String) : validate schema v p = (validate schema v "").map (List.map (·.under p)) := by
    rw [← hput, String.append_empty]
  refine ⟨validate_eq_issuesAt schema v p, hput p q, fun e => ?_, fun found hfound issue hissue => ?_, ?_⟩
  · rw [hput]
    cases validate schema v q <;> simp [Except.map]
  · rw [hroot] at hfound
    cases hbare : validate schema v "" with
    | error e => simp [hbare, Except.map] at hfound
    | ok bare =>
      simp only [hbare, Except.map, Except.ok.injEq] at hfound
      subst hfound
      obtain ⟨relative, -, rfl⟩ := List.mem_map.1 hissue
      exact ⟨relative.path, rfl⟩
  · rw [hroot p, hroot q]
    cases validate schema v "" with
    | error e => rfl
    | ok bare => simp [Except.map]

/-- Rows with a property that no usable schema is given for. -/
def rowsOfSizes : Value := .ofFields [("type", .str "array"), ("items", .ofFields [("type", .str "object"),
  ("properties", .ofFields [("size", .ofFields [("type", .str "array")])])])]

/-- The property is reported in the first of some rows that stand in the third row of others. -/
theorem validate_sizes_in_third_row :
    validate rowsOfSizes (.list [.dict [(.str "size", .null)]]) ("/rows" ++ "/2") =
      .ok [⟨.invalidSchema, "Invalid schema", "/rows/2/0/size"⟩] ∧
    ∃ place, "/rows/2/0/size" = "/rows/2" ++ place := by
  have hpath := validate_path_only_prefixes rowsOfSizes (.list [.dict [(.str "size", .null)]])
  have hfound := (hpath "/rows" "/2").2.1.trans
    (c := Except.ok [⟨.invalidSchema, "Invalid schema", "/rows/2/0/size"⟩]) rfl
  exact ⟨hfound, (hpath "/rows/2" "").2.2.2.1 _ hfound _ (List.mem_singleton_self _)⟩

end DataShape
