import DataShape.Proofs.Number.Decimal
import DataShape.Proofs.Schema.Tree
import DataShape.Proofs.Value.Keys
import DataShape.Text.Pieces

/-! Locations in a document, in the order in which its text would show them, and their paths. Where all keys are
texts without a slash, no two locations have the same path, and a path that is cut at its slashes leads back. -/

namespace DataShape

theorem pieces_separator_cons (separator : Char) (cs : List Char) :
    pieces separator (separator :: cs) = [] :: pieces separator cs := if_pos rfl

theorem pieces_append {separator : Char} {cs rest first : List Char} {others : List (List Char)}
    (h : separator ∉ cs) (hrest : pieces separator rest = first :: others) :
    pieces separator (cs ++ rest) = (cs ++ first) :: others := by
  induction cs with
  | nil => exact hrest
  | cons c cs ih =>
    rw [List.mem_cons, not_or] at h
    rw [List.cons_append, pieces, if_neg (Ne.symm h.1), ih h.2]
    rfl

namespace Step

theorem path_cons_eq_ok {step : Step} {steps : List Step} {place : String} :
    path (step :: steps) = .ok place ↔
      ∃ text rest, step.text = .ok text ∧ path steps = .ok rest ∧ place = "/" ++ text ++ rest := by
  simp only [path, bind_eq_ok, pure_eq_ok, Except.ok.injEq, eq_comm (b := place)]
  constructor
  · rintro ⟨text, htext, rest, hrest, hplace⟩
    exact ⟨text, rest, htext, hrest, hplace⟩
  · rintro ⟨text, rest, htext, hrest, hplace⟩
    exact ⟨text, htext, rest, hrest, hplace⟩

/-- Nothing stands before the first slash of a path. -/
theorem exists_pieces_path {steps : List Step} {place : String} (h : path steps = .ok place) :
    ∃ texts, pieces '/' place.toList = [] :: texts := by
  cases steps with
  | nil =>
    cases h
    exact ⟨[], rfl⟩
  | cons step steps =>
    obtain ⟨text, rest, -, -, rfl⟩ := path_cons_eq_ok.1 h
    refine ⟨pieces '/' (text ++ rest).toList, ?_⟩
    rw [String.append_assoc, String.toList_append]
    exact pieces_separator_cons '/' _

theorem pieces_path_cons {steps : List Step} {text rest : String} (htext : '/' ∉ text.toList)
    (hrest : path steps = .ok rest) :
    ∃ texts, pieces '/' rest.toList = [] :: texts ∧
      pieces '/' ("/" ++ text ++ rest).toList = [] :: text.toList :: texts := by
  obtain ⟨texts, htexts⟩ := exists_pieces_path hrest
  refine ⟨texts, htexts, ?_⟩
  have happend := pieces_append htext htexts
  rw [List.append_nil] at happend
  rw [String.append_assoc, String.toList_append, String.toList_append, ← happend]
  exact pieces_separator_cons '/' _

/-- Of steps without a slash in them, the first can be read off a path, and so can the path of the rest. -/
theorem path_cons_inj {a b : Step} {as bs : List Step} {t u p q : String} (ha : a.text = .ok t)
    (hb : b.text = .ok u) (ht : '/' ∉ t.toList) (hu : '/' ∉ u.toList) (hp : path as = .ok p)
    (hq : path bs = .ok q) (h : path (a :: as) = path (b :: bs)) : t = u ∧ p = q := by
  rw [path_cons_eq_ok.2 ⟨t, p, ha, hp, rfl⟩, path_cons_eq_ok.2 ⟨u, q, hb, hq, rfl⟩, Except.ok.injEq] at h
  obtain ⟨_, -, hpieces⟩ := pieces_path_cons ht hp
  obtain ⟨_, -, hpieces'⟩ := pieces_path_cons hu hq
  rw [h, hpieces', List.cons.injEq, List.cons.injEq] at hpieces
  obtain rfl : t = u := String.toList_injective hpieces.2.1.symm
  exact ⟨rfl, (String.append_right_inj _).1 h⟩

end Step

namespace Value

/-- The values right below a value at which paths can go on, each with the step to it. -/
def children : Value → List (Step × Value)
  | .list items | .tuple items => items.zipIdx.map fun (x, i) => (.index i, x)
  | .dict entries | .view entries => entries.map fun entry => (.key entry.1, entry.2)
  | _ => []

mutual

/-- The locations in a value: the value itself, and then those in each of its children in turn. -/
def locations : Value → List (List Step)
  | .list items | .tuple items => [] :: elementLocations 0 items
  | .dict entries | .view entries => [] :: entryLocations entries
  | _ => [[]]

def elementLocations (index : Nat) : List Value → List (List Step)
  | [] => []
  | v :: vs => v.locations.map (.index index :: ·) ++ elementLocations (index + 1) vs

def entryLocations : List (Value × Value) → List (List Step)
  | [] => []
  | (key, v) :: entries => v.locations.map (.key key :: ·) ++ entryLocations entries

end

theorem elementLocations_eq (index : Nat) (items : List Value) :
    elementLocations index items =
      ((items.zipIdx index).map fun (x, i) => (Step.index i, x)).flatMap fun c => c.2.locations.map (c.1 :: ·) := by
  induction items generalizing index with
  | nil => rfl
  | cons v vs ih => rw [elementLocations, ih]; rfl

theorem entryLocations_eq (entries : Entries) :
    entryLocations entries =
      (entries.map fun entry => (Step.key entry.1, entry.2)).flatMap fun c => c.2.locations.map (c.1 :: ·) := by
  induction entries with
  | nil => rfl
  | cons entry entries ih => rw [entryLocations, ih]; rfl

/-- A value comes before its children, and all that is below a child before the next child. -/
theorem locations_eq (v : Value) :
    v.locations = [] :: v.children.flatMap fun c => c.2.locations.map (c.1 :: ·) := by
  cases v with
  | list items | tuple items => rw [locations, elementLocations_eq]; rfl
  | dict entries | view entries => rw [locations, entryLocations_eq]; rfl
  | _ => rfl

theorem children_of_elements {v : Value} {elements : List Value} (hv : v.elements? = some elements) :
    v.children = elements.zipIdx.map fun (x, i) => (Step.index i, x) := by
  cases v <;> simp only [elements?, Option.some.injEq, reduceCtorEq] at hv <;> subst hv <;> rfl

theorem children_of_entries {v : Value} {entries : Entries} (hv : v.entries? = some entries) :
    v.children = entries.map fun entry => (Step.key entry.1, entry.2) := by
  cases v <;> simp only [entries?, Option.some.injEq, reduceCtorEq] at hv <;> subst hv <;> rfl

theorem mem_children {v : Value} {child : Step × Value} (h : child ∈ v.children) :
    (∃ elements i, v.elements? = some elements ∧ elements[i]? = some child.2 ∧ child.1 = .index i) ∨
    ∃ entries key, v.entries? = some entries ∧ (key, child.2) ∈ entries ∧ child.1 = .key key := by
  cases helements : v.elements? with
  | some elements =>
    rw [children_of_elements helements] at h
    obtain ⟨⟨x, i⟩, hx, rfl⟩ := List.mem_map.1 h
    exact .inl ⟨elements, i, rfl, List.mk_mem_zipIdx_iff_getElem?.1 hx, rfl⟩
  | none =>
    cases hentries : v.entries? with
    | some entries =>
      rw [children_of_entries hentries] at h
      obtain ⟨⟨key, x⟩, hentry, rfl⟩ := List.mem_map.1 h
      exact .inr ⟨entries, key, rfl, hentry, rfl⟩
    | none => cases v <;> simp_all [children, elements?, entries?]

theorem mem_parts_of_mem_children {v : Value} {child : Step × Value} (h : child ∈ v.children) :
    child.2 ∈ v.parts := by
  obtain ⟨elements, i, hv, hx, -⟩ | ⟨entries, key, hv, hentry, -⟩ := mem_children h
  · exact mem_parts_of_elements hv (List.mem_of_getElem? hx)
  · exact (mem_parts_of_entries hv hentry).2

theorem Everywhere.child {P : Value → Prop} {v : Value} (h : v.Everywhere P) {child : Step × Value}
    (hchild : child ∈ v.children) : child.2.Everywhere P := h.part (mem_parts_of_mem_children hchild)

/-- If this is a mapping, its keys are texts without a slash, and none stands there twice. -/
structure HasPlainKeys (v : Value) : Prop where
  distinct : v.HasDistinctKeys
  plain : ∀ entries, v.entries? = some entries → ∀ entry ∈ entries, ∃ name, entry.1 = .str name ∧ '/' ∉ name.toList

theorem hasPlainKeys_of_not_mapping {v : Value} (h : v.entries? = none) : v.HasPlainKeys :=
  ⟨hasDistinctKeys_of_not_mapping h, by simp [h]⟩

def index? (text : String) : Option Nat :=
  let n := readDecimal text.toList
  if natText n = text then some n else none

theorem index?_natText (n : Nat) : index? (natText n) = some n := by
  have hread : readDecimal (natText n).toList = n := by
    rw [natText, String.toList_ofList, readDecimal_decimalDigits]
  rw [index?, hread]
  exact if_pos rfl

/-- What a piece of a path leads to: an element by its index, or what stands under a key. -/
def child? (v : Value) (text : String) : Option Value :=
  match v.elements? with
  | some elements => (index? text).bind fun i => elements[i]?
  | none => v.field? text

/-- What some pieces of a path lead to, one after the other. -/
def follow? (v : Value) : List (List Char) → Option Value
  | [] => some v
  | text :: texts => (v.child? (String.ofList text)).bind fun x => x.follow? texts

/-- What a path leads to; before its first slash stands nothing. -/
def atPath? (v : Value) (path : String) : Option Value :=
  match pieces '/' path.toList with
  | [] :: texts => v.follow? texts
  | _ => none

theorem slash_not_mem_natText (n : Nat) : '/' ∉ (natText n).toList := by
  rw [natText, String.toList_ofList]
  intro h
  have := isDigit_of_mem_decimalDigits h
  revert this
  decide

/-- The step to a child is a text without a slash, which leads to the child. -/
theorem exists_text_of_mem_children {v : Value} (hkeys : v.HasPlainKeys) {child : Step × Value}
    (h : child ∈ v.children) : ∃ text, child.1.text = .ok text ∧ '/' ∉ text.toList ∧ v.child? text = some child.2 := by
  obtain ⟨elements, i, hv, hx, hstep⟩ | ⟨entries, key, hv, hentry, hstep⟩ := mem_children h
  · refine ⟨natText i, by rw [hstep]; rfl, slash_not_mem_natText i, ?_⟩
    simp only [child?, hv, index?_natText, Option.bind_some, hx]
  · obtain ⟨name, hkey, hname⟩ := hkeys.plain entries hv _ hentry
    obtain rfl : key = .str name := hkey
    refine ⟨name, by rw [hstep]; rfl, hname, ?_⟩
    have helements : v.elements? = none := by cases v <;> first | rfl | cases hv
    have hfind := Entries.find?_eq_some_of_distinct (hkeys.distinct entries hv) hentry (sameKey_str_iff.2 rfl)
    simp only [child?, helements, field?, hv, Option.bind_some, Entries.lookup?, hfind, Option.map_some]

theorem pairwise_children {v : Value} (hkeys : v.HasPlainKeys) :
    v.children.Pairwise fun c d => c.1.text ≠ d.1.text := by
  cases hv : v.elements? with
  | some elements =>
    have hindices : (elements.zipIdx.map Prod.snd).Nodup := by
      rw [List.zipIdx_map_snd]
      exact List.nodup_range'
    rw [children_of_elements hv, List.pairwise_map]
    refine (List.pairwise_map.1 hindices).imp fun hne htext => hne ?_
    have hindex := congrArg index? (Except.ok.inj htext)
    rwa [index?_natText, index?_natText, Option.some.injEq] at hindex
  | none =>
    cases hentries : v.entries? with
    | some entries =>
      have hdistinct := hkeys.distinct entries hentries
      rw [Entries.keys, List.pairwise_map] at hdistinct
      rw [children_of_entries hentries, List.pairwise_map]
      refine hdistinct.imp_of_mem fun {a b} ha hb hne htext => ?_
      obtain ⟨name, hname, -⟩ := hkeys.plain entries hentries a ha
      obtain ⟨name', hname', -⟩ := hkeys.plain entries hentries b hb
      rw [hname, hname'] at hne htext
      obtain rfl : name = name' := Except.ok.inj htext
      rw [sameKey_str_iff.2 rfl] at hne
      cases hne
    | none => cases v <;> simp_all [children, elements?, entries?]

theorem exists_path_of_mem_locations {v : Value} (hkeys : v.Everywhere HasPlainKeys) {location : List Step}
    (h : location ∈ v.locations) : ∃ place, Step.path location = .ok place := by
  induction v using induction_on_parts generalizing location with
  | step v ih =>
    rw [locations_eq] at h
    rcases List.mem_cons.1 h with rfl | h
    · exact ⟨"", rfl⟩
    · obtain ⟨child, hchild, h⟩ := List.mem_flatMap.1 h
      obtain ⟨rest, hrest, rfl⟩ := List.mem_map.1 h
      obtain ⟨place, hplace⟩ := ih child.2 (mem_parts_of_mem_children hchild) (hkeys.child hchild) hrest
      obtain ⟨text, htext, -⟩ := exists_text_of_mem_children hkeys.here hchild
      exact ⟨_, Step.path_cons_eq_ok.2 ⟨text, place, htext, hplace, rfl⟩⟩

/-- No two locations have the same path. -/
theorem nodup_paths {v : Value} (hkeys : v.Everywhere HasPlainKeys) :
    (v.locations.map Step.path).Nodup := by
  induction v using induction_on_parts with
  | step v ih =>
    rw [locations_eq, List.map_cons, List.nodup_cons]
    constructor
    -- The path of the value itself is empty, and every other one starts with a slash.
    · intro h
      obtain ⟨location, hlocation, hpath⟩ := List.mem_map.1 h
      obtain ⟨child, -, hlocation⟩ := List.mem_flatMap.1 hlocation
      obtain ⟨rest, -, rfl⟩ := List.mem_map.1 hlocation
      obtain ⟨text, place, -, -, hplace⟩ := Step.path_cons_eq_ok.1 hpath
      exact absurd (congrArg String.toList hplace) (by simp)
    · rw [List.Nodup, List.pairwise_map, List.pairwise_flatMap]
      refine ⟨fun child hchild => ?_, ?_⟩
      -- Below one child, the paths differ after the first step, by induction.
      · obtain ⟨text, htext, hslash, -⟩ := exists_text_of_mem_children hkeys.here hchild
        have hrest := List.pairwise_map.1 (ih child.2 (mem_parts_of_mem_children hchild) (hkeys.child hchild))
        rw [List.pairwise_map]
        refine hrest.imp_of_mem fun {a b} ha hb hne heq => hne ?_
        obtain ⟨p, hp⟩ := exists_path_of_mem_locations (hkeys.child hchild) ha
        obtain ⟨q, hq⟩ := exists_path_of_mem_locations (hkeys.child hchild) hb
        rw [hp, hq, (Step.path_cons_inj htext htext hslash hslash hp hq heq).2]
      -- Below two children, the paths differ in the first step, which can be read off them.
      · refine (pairwise_children hkeys.here).imp_of_mem fun {c d} hc hd hne => ?_
        intro x hx y hy heq
        obtain ⟨a, ha, rfl⟩ := List.mem_map.1 hx
        obtain ⟨b, hb, rfl⟩ := List.mem_map.1 hy
        obtain ⟨p, hp⟩ := exists_path_of_mem_locations (hkeys.child hc) ha
        obtain ⟨q, hq⟩ := exists_path_of_mem_locations (hkeys.child hd) hb
        obtain ⟨t, ht, hslash, -⟩ := exists_text_of_mem_children hkeys.here hc
        obtain ⟨u, hu, hslash', -⟩ := exists_text_of_mem_children hkeys.here hd
        exact hne (by rw [ht, hu, (Step.path_cons_inj ht hu hslash hslash' hp hq heq).1])

end Value
end DataShape
