import DataShape.Proofs.Validation.Reordering

/-! Documents that hold the same, with entries in another order and in containers of another class, at whatever depth.
What validation finds in them is of the same kinds at the same paths. -/

namespace DataShape

def Issue.finding (issue : Issue) : IssueKind × String := (issue.kind, issue.path)

/-- The issues are of the same kinds at the same paths, each as often. -/
def SameFindings (found found' : List Issue) : Prop := (found.map Issue.finding).Perm (found'.map Issue.finding)

namespace SameFindings

variable {found found' : List Issue}

theorem append {below below' : List Issue} (h : SameFindings found found') (hbelow : SameFindings below below') :
    SameFindings (found ++ below) (found' ++ below') := by
  rw [SameFindings, List.map_append, List.map_append]
  exact List.Perm.append h hbelow

theorem under (h : SameFindings found found') (outer : String) :
    SameFindings (found.map (·.under outer)) (found'.map (·.under outer)) := by
  have hunder (found : List Issue) : (found.map (·.under outer)).map Issue.finding =
      (found.map Issue.finding).map fun finding => (finding.1, outer ++ finding.2) := by
    rw [List.map_map, List.map_map]
    rfl
  rw [SameFindings, hunder, hunder]
  exact h.map _

theorem of_kinds {own own' : List Cause} (h : own.map Cause.kind = own'.map Cause.kind) :
    SameFindings (own.map Cause.issue) (own'.map Cause.issue) := by
  have hissues (own : List Cause) : (own.map Cause.issue).map Issue.finding = (own.map Cause.kind).map (·, "") := by
    rw [List.map_map, List.map_map]
    rfl
  rw [SameFindings, hissues, hissues, h]

theorem isEmpty_eq (h : SameFindings found found') : found.isEmpty = found'.isEmpty := by
  simpa using List.Perm.isEmpty_eq h

end SameFindings

namespace Value

/-- A document, and the same one with lists exchanged for tuples and mappings for those that can only be looked at, and
with entries put in another order, at any depth outside keys and sets. -/
inductive Rearranged : Value → Value → Prop
  | same (v : Value) : Rearranged v v
  | elements {v w : Value} {xs ys : List Value} (hv : v.elements? = some xs) (hw : w.elements? = some ys)
      (hlength : xs.length = ys.length)
      (values : ∀ (i : Nat) (x y : Value), xs[i]? = some x → ys[i]? = some y → Rearranged x y) : Rearranged v w
  | entries {v w : Value} {as bs entries : Entries} (hv : v.entries? = some as) (hw : w.entries? = some entries)
      (hkeys : as.keys = bs.keys)
      (values : ∀ (i : Nat) (a b : Value × Value), as[i]? = some a → bs[i]? = some b → Rearranged a.2 b.2)
      (hperm : bs.Perm entries) : Rearranged v w

end Value

namespace Schema

theorem kinds_of_mistyped {expected : String} {v : Value} {own : List Cause} (h : mistyped expected v = .ok own) :
    own.map Cause.kind = [.invalidType] := by
  obtain ⟨shown, -, hown⟩ := bind_eq_ok.1 h
  cases hown
  rfl

def sequenceKinds (schema : Schema) (length : Nat) : List IssueKind :=
  match schema with
  | .invalid _ => [.invalidSchema]
  | .any | .array _ => []
  | .tuple items => if length = items.length then [] else [.invalidType]
  | _ => [.invalidType]

def mappingKinds (schema : Schema) (keys : List Value) : List IssueKind :=
  match schema with
  | .invalid _ => [.invalidSchema]
  | .any | .record _ => []
  | .object properties required => match requiredNames? required with
    | none => [.invalidSchema]
    | some names =>
      (if keys.all fun key => (propertyFor? properties key).isSome then [] else [.invalidType]) ++
        if names.all fun name => keys.any (·.sameKey (.str name)) then [] else [.invalidType]
  | _ => [.invalidType]

theorem kinds_of_elements {s : Schema} {v : Value} {xs : List Value} {own : List Cause} (hv : v.elements? = some xs)
    (h : s.ownCauses v = .ok own) : own.map Cause.kind = s.sequenceKinds xs.length := by
  cases v <;> cases hv
  all_goals
    cases s
    case invalid | any | array => cases h; rfl
    case tuple items =>
      simp only [ownCauses, Value.elements?, pure_eq_ok, Except.ok.injEq] at h
      subst h
      rw [sequenceKinds]
      split <;> rfl
    all_goals exact kinds_of_mistyped h

theorem kinds_of_keyCauses {properties : List (Property Schema)} {names : List String} {entries : Entries}
    {own : List Cause} (h : keyCauses properties names entries = .ok own) :
    own.map Cause.kind =
      (if entries.keys.all fun key => (propertyFor? properties key).isSome then [] else [.invalidType]) ++
        if names.all fun name => entries.keys.any (·.sameKey (.str name)) then [] else [.invalidType] := by
  obtain ⟨unexpected, hunexpected, hown⟩ := bind_eq_ok.1 h
  cases hown
  have hall : unexpected.isEmpty = entries.keys.all fun key => (propertyFor? properties key).isSome := by
    rw [Bool.eq_iff_iff, List.isEmpty_iff]
    constructor
    · rintro rfl
      simpa [any_sameKey_eq_isSome, Option.isSome_iff_ne_none] using mapM_eq_ok_nil.1 hunexpected
    · intro hall
      have hnone : entries.keys.filter (fun key => !properties.any (·.key.sameKey key)) = [] := by
        simpa [any_sameKey_eq_isSome, Option.isSome_iff_ne_none] using hall
      rw [unexpectedKeys, hnone] at hunexpected
      cases hunexpected
      rfl
  have hmissing : (missingKeys names entries).isEmpty =
      names.all fun name => entries.keys.any (·.sameKey (.str name)) := by
    rw [Bool.eq_iff_iff, List.isEmpty_iff]
    simp [missingKeys, Entries.hasKey, Entries.lookup?, Entries.keys, List.filter_eq_nil_iff]
  rw [List.map_append, hall, hmissing]
  congr 1 <;> split <;> rfl

theorem kinds_of_entries {s : Schema} {v : Value} {entries : Entries} {own : List Cause}
    (hv : v.entries? = some entries) (h : s.ownCauses v = .ok own) :
    own.map Cause.kind = s.mappingKinds entries.keys := by
  cases v <;> cases hv
  all_goals
    cases s
    case invalid | any | record => cases h; rfl
    case object properties required =>
      rw [mappingKinds]
      cases hnames : requiredNames? required with
      | none =>
        simp only [ownCauses, Value.entries?, hnames] at h
        obtain ⟨shown, -, hown⟩ := bind_eq_ok.1 h
        cases hown
        rfl
      | some names =>
        simp only [ownCauses, Value.entries?, hnames] at h
        exact kinds_of_keyCauses h
    all_goals exact kinds_of_mistyped h

theorem mappingKinds_perm (s : Schema) {keys keys' : List Value} (h : keys.Perm keys') :
    s.mappingKinds keys = s.mappingKinds keys' := by
  cases s with
  | object properties required => simp only [mappingKinds, h.all_eq, h.any_eq]
  | _ => rfl

/-- Under every schema, validation finds the same in one value as in the other. -/
def Interchangeable (v w : Value) : Prop :=
  ∀ (s : Schema) (found found' : List Issue), s.issues v = .ok found → s.issues w = .ok found' →
    SameFindings found found'

/-- Parts at one step that are checked under one schema. -/
structure MatchingParts (p q : Part) : Prop where
  step_eq : p.step = q.step
  schema_eq : p.schema = q.schema
  value : Interchangeable p.value q.value

theorem MatchingParts.sameFindings {p q : Part} (h : MatchingParts p q) {found found' : List Issue}
    (hp : p.issues = .ok found) (hq : q.issues = .ok found') : SameFindings found found' := by
  simp only [Part.issues, bind_eq_ok, pure_eq_ok, Except.ok.injEq] at hp hq
  obtain ⟨step, hstep, inner, hinner, rfl⟩ := hp
  obtain ⟨step', hstep', inner', hinner', rfl⟩ := hq
  rw [h.step_eq, hstep', Except.ok.injEq] at hstep
  subst hstep
  exact (h.value q.schema inner inner' (h.schema_eq ▸ hinner) hinner').under _

/-- The parts match one by one, once they are put in another order. -/
def PartsMatch (ps qs : List Part) : Prop := ∃ rs, List.Forall₂ MatchingParts ps rs ∧ rs.Perm qs

theorem sameFindings_of_partIssues {ps qs : List Part} (h : PartsMatch ps qs) {found found' : List Issue}
    (hp : partIssues ps = .ok found) (hq : partIssues qs = .ok found') : SameFindings found found' := by
  obtain ⟨rs, hmatch, hperm⟩ := h
  obtain ⟨groups', hgroups', hfound'⟩ := bind_eq_ok.1 hq
  obtain ⟨groups, hgroups, horder⟩ := mapM_perm hperm hgroups'
  cases hfound'
  have hrs : partIssues rs = .ok groups.flatten := by rw [partIssues, hgroups]; rfl
  -- What is left is one by one; the order of the parts is settled.
  refine List.Perm.trans ?_ (horder.flatten.map _)
  generalize groups.flatten = middle at hrs
  clear hq hgroups hgroups' horder hperm
  induction hmatch generalizing found middle with
  | nil =>
    cases hp
    cases hrs
    exact .refl _
  | cons hfirst _ ih =>
    simp only [partIssues_cons, bind_eq_ok, pure_eq_ok, Except.ok.injEq] at hp hrs
    obtain ⟨first, hpfirst, rest, hprest, rfl⟩ := hp
    obtain ⟨first', hrfirst, rest', hrrest, rfl⟩ := hrs
    exact (hfirst.sameFindings hpfirst hrfirst).append (ih hprest _ hrrest)

/-- The same is found if what is wrong with the values themselves is of the same kinds, and their parts match. -/
theorem sameFindings_of_parts {s : Schema} {v w : Value} {found found' : List Issue}
    (hkinds : ∀ own own', s.ownCauses v = .ok own → s.ownCauses w = .ok own' →
      own.map Cause.kind = own'.map Cause.kind)
    (hparts : PartsMatch (s.parts v) (s.parts w)) (hv : s.issues v = .ok found) (hw : s.issues w = .ok found') :
    SameFindings found found' := by
  simp only [issues_eq, bind_eq_ok, pure_eq_ok, Except.ok.injEq] at hv hw
  obtain ⟨own, hown, below, hbelow, rfl⟩ := hv
  obtain ⟨own', hown', below', hbelow', rfl⟩ := hw
  exact (SameFindings.of_kinds (hkinds own own' hown hown')).append (sameFindings_of_partIssues hparts hbelow hbelow')

theorem matching_elementParts {xs ys : List Value} (h : List.Forall₂ Interchangeable xs ys) (items : Schema)
    (index : Nat) : List.Forall₂ MatchingParts (elementParts items xs index) (elementParts items ys index) := by
  induction h generalizing index with
  | nil => exact .nil
  | cons hfirst _ ih => exact .cons ⟨rfl, rfl, hfirst⟩ (ih (index + 1))

theorem matching_placeParts {xs ys : List Value} (h : List.Forall₂ Interchangeable xs ys) (items : List Schema)
    (index : Nat) : List.Forall₂ MatchingParts (placeParts items xs index) (placeParts items ys index) := by
  induction h generalizing items index with
  | nil => cases items <;> exact .nil
  | cons hfirst _ ih =>
    cases items with
    | nil => exact .nil
    | cons item items => exact .cons ⟨rfl, rfl, hfirst⟩ (ih items (index + 1))

/-- Entries with one key and with values in which the same is found. -/
structure MatchingEntries (a b : Value × Value) : Prop where
  key_eq : a.1 = b.1
  value : Interchangeable a.2 b.2

theorem matching_entryParts {as bs : Entries} (h : List.Forall₂ MatchingEntries as bs) (values : Schema) :
    List.Forall₂ MatchingParts (entryParts values as) (entryParts values bs) := by
  induction h with
  | nil => exact .nil
  | cons hfirst _ ih => exact .cons ⟨congrArg Step.key hfirst.key_eq, rfl, hfirst.value⟩ ih

theorem matching_propertyParts {as bs : Entries} (h : List.Forall₂ MatchingEntries as bs)
    (properties : List (Property Schema)) :
    List.Forall₂ MatchingParts (propertyParts properties as) (propertyParts properties bs) := by
  induction h with
  | nil => exact .nil
  | @cons a b _ _ hfirst _ ih =>
    simp only [propertyParts, List.filterMap_cons, hfirst.key_eq] at ih ⊢
    cases propertyFor? properties b.1 with
    | none => exact ih
    | some property => exact .cons ⟨rfl, rfl, hfirst.value⟩ ih

theorem keys_eq_of_matching {as bs : Entries} (h : List.Forall₂ MatchingEntries as bs) :
    as.keys = Entries.keys bs := by
  induction h with
  | nil => rfl
  | cons hfirst _ ih => exact congrArg₂ List.cons hfirst.key_eq ih

theorem interchangeable_of_elements {v w : Value} {xs ys : List Value} (hv : v.elements? = some xs)
    (hw : w.elements? = some ys) (h : List.Forall₂ Interchangeable xs ys) : Interchangeable v w := by
  intro s found found'
  refine sameFindings_of_parts (fun own own' hown hown' => ?_) ⟨s.parts w, ?_, .refl _⟩
  · rw [kinds_of_elements hv hown, kinds_of_elements hw hown', h.length_eq]
  · cases s with
    | array items =>
      simp only [parts, hv, hw, Option.map_some, Option.getD_some]
      exact matching_elementParts h items 0
    | tuple items =>
      simp only [parts, hv, hw, Option.map_some, Option.getD_some, h.length_eq]
      split
      · exact matching_placeParts h items 0
      · exact .nil
    | record | object =>
      simp only [parts, Value.entries?_of_elements? hv, Value.entries?_of_elements? hw, Option.map_none,
        Option.getD_none, List.Forall₂.nil]
    | _ => exact .nil

theorem interchangeable_of_entries {v w : Value} {as bs entries : Entries} (hv : v.entries? = some as)
    (hw : w.entries? = some entries) (h : List.Forall₂ MatchingEntries as bs) (hperm : bs.Perm entries) :
    Interchangeable v w := by
  intro s found found'
  refine sameFindings_of_parts (fun own own' hown hown' => ?_) ?_
  · rw [kinds_of_entries hv hown, kinds_of_entries hw hown', keys_eq_of_matching h]
    exact mappingKinds_perm s (hperm.map _)
  · cases s with
    | record values =>
      simp only [parts, hv, hw, Option.map_some, Option.getD_some]
      exact ⟨entryParts values bs, matching_entryParts h values, hperm.map _⟩
    | object properties required =>
      simp only [parts, hv, hw, Option.map_some, Option.getD_some]
      split
      · exact ⟨propertyParts properties bs, matching_propertyParts h properties, hperm.filterMap _⟩
      · exact ⟨[], .nil, .refl _⟩
    | array | tuple =>
      simp only [parts, Value.elements?_of_entries? hv, Value.elements?_of_entries? hw, Option.map_none,
        Option.getD_none]
      exact ⟨[], .nil, .refl _⟩
    | _ => exact ⟨[], .nil, .refl _⟩

end Schema

theorem forall₂_of_getElem? {α β : Type} {R : α → β → Prop} {xs : List α} {ys : List β} (hlength : xs.length = ys.length)
    (h : ∀ (i : Nat) (x : α) (y : β), xs[i]? = some x → ys[i]? = some y → R x y) : List.Forall₂ R xs ys :=
  List.forall₂_iff_get.2 ⟨hlength, fun i hx hy =>
    h i _ _ (List.getElem?_eq_getElem hx) (List.getElem?_eq_getElem hy)⟩

/-- Validation finds the same in a document that is rearranged. -/
theorem Value.Rearranged.interchangeable {v w : Value} (h : v.Rearranged w) : Schema.Interchangeable v w := by
  induction h with
  | same v =>
    intro s found found' hfound hfound'
    rw [hfound, Except.ok.injEq] at hfound'
    subst hfound'
    exact .refl _
  | elements hv hw hlength _ ih =>
    exact Schema.interchangeable_of_elements hv hw (forall₂_of_getElem? hlength ih)
  | entries hv hw hkeys _ hperm ih =>
    have hlength := congrArg List.length hkeys
    rw [Entries.keys, Entries.keys, List.length_map, List.length_map] at hlength
    refine Schema.interchangeable_of_entries hv hw (forall₂_of_getElem? hlength fun i a b ha hb => ⟨?_, ih i a b ha hb⟩) hperm
    have hkey := congrArg (·[i]?) hkeys
    simpa [Entries.keys, ha, hb] using hkey

/-- Validation of a rearranged document under a reordered schema finds the same, if both come to an end, and so accepts
both or none. The order of a schema makes no difference to the issues of a document, their messages included. -/
theorem validate_reordered {schema schema' v w : Value} (hschema : Value.Reordered .schema schema schema')
    (hkeys : schema.Everywhere Value.HasDistinctKeys) (hv : v.Rearranged w) (path : String) :
    (∀ found found', validate schema v path = .ok found → validate schema' w path = .ok found' →
      (found.map fun issue => (issue.kind, issue.path)).Perm (found'.map fun issue => (issue.kind, issue.path))) ∧
    (∀ valid valid', isValid schema v = .ok valid → isValid schema' w = .ok valid' → valid = valid') ∧
    validate schema' v path = validate schema v path := by
  have halike (x : Value) (path : String) : validate schema' x path = validate schema x path := by
    rw [validate, validate, (Schema.alike_of_reordered hschema hkeys).issues_eq]
  have hfindings {path : String} {found found' : List Issue} (hfound : validate schema v path = .ok found)
      (hfound' : validate schema' w path = .ok found') : SameFindings found found' := by
    rw [halike] at hfound'
    obtain ⟨issues, hissues, hunder⟩ := bind_eq_ok.1 hfound
    obtain ⟨issues', hissues', hunder'⟩ := bind_eq_ok.1 hfound'
    cases hunder
    cases hunder'
    exact (hv.interchangeable _ issues issues' hissues hissues').under path
  refine ⟨fun found found' => hfindings, fun valid valid' hvalid hvalid' => ?_, halike v path⟩
  obtain ⟨found, hfound, hempty⟩ := bind_eq_ok.1 hvalid
  obtain ⟨found', hfound', hempty'⟩ := bind_eq_ok.1 hvalid'
  cases hempty
  cases hempty'
  exact (hfindings hfound hfound').isEmpty_eq

/-- A list of flags. -/
def flagList : Value := .ofFields [("type", .str "array"), ("items", .ofFields [("type", .str "boolean")])]

/-- The same list of flags, with the entries of its schema in another order. -/
def flagListReordered : Value := .ofFields [("items", .ofFields [("type", .str "boolean")]), ("type", .str "array")]

/-- A flag that is missing and a list where there is to be a text are found in either order, and in tuples. -/
theorem validate_reordered_flags :
    ∃ found found',
      validate (.ofFields [("type", .str "object"),
          ("properties", .ofFields [("flags", flagList), ("label", .ofFields [("type", .str "string")])])])
        (.ofFields [("flags", .list [.bool true, .null]), ("label", .list [])]) "/row" = .ok found ∧
      validate (.ofFields [("properties", .ofFields [("label", .ofFields [("type", .str "string")]),
          ("flags", flagListReordered)]), ("type", .str "object")])
        (.view [(.str "label", .tuple []), (.str "flags", .tuple [.bool true, .null])]) "/row" = .ok found' ∧
      found.length = 2 ∧
      (found.map fun issue => (issue.kind, issue.path)).Perm (found'.map fun issue => (issue.kind, issue.path)) := by
  refine ⟨?found, ?found', ?first, ?second, ?length, (validate_reordered ?_ ?_ ?_ "/row").1 _ _ ?first ?second⟩
  case first | second | length => exact rfl
  · have hflags : Value.Reordered .schema flagList flagListReordered := by
      refine .entries (by simp) rfl rfl rfl (fun i a b ha hb => ?_) (.swap ..)
      rw [ha] at hb
      cases hb
      exact .same _ _
    have hproperties : Value.Reordered .properties
        (.ofFields [("flags", flagList), ("label", .ofFields [("type", .str "string")])])
        (.ofFields [("label", .ofFields [("type", .str "string")]), ("flags", flagListReordered)]) := by
      refine .entries (by simp) rfl rfl ?_ ?_ (.swap ..)
      · rfl
      rintro (_ | _ | i) a b ha hb <;> cases ha <;> cases hb
      · exact hflags
      · exact .same _ _
    refine .entries (by simp) rfl rfl ?_ ?_ (.swap ..)
    · rfl
    rintro (_ | _ | i) a b ha hb <;> cases ha <;> cases hb
    · exact .same _ _
    · exact hproperties
  · have hstr (s : String) : (Value.str s).HasDistinctKeys := Value.hasDistinctKeys_of_not_mapping rfl
    simp only [flagList, Value.ofFields, List.map_cons, List.map_nil, Value.everywhere_dict, Value.everywhere_str,
      List.forall_mem_cons, Value.hasDistinctKeys_dict, hstr, List.not_mem_nil, false_implies, implies_true, and_true,
      true_and]
    decide
  · refine .entries rfl rfl ?_ ?_ (.swap ..)
    · rfl
    rintro (_ | _ | i) a b ha hb <;> cases ha <;> cases hb
    · refine .elements rfl rfl rfl fun i x y hx hy => ?_
      rw [hx] at hy
      cases hy
      exact .same _
    · exact .elements rfl rfl rfl fun i x y hx => by cases hx

end DataShape
