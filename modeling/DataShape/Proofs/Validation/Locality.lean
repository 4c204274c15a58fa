import DataShape.Proofs.Validation.Parts

/-! What stands at one place of a document changes nothing in what is reported of the rest. A document with one
place left open is a context, and filling it in puts a value there; around the issues of that value, under every
filling, stand the same issues. -/

namespace DataShape

theorem exists_append_of_getElem? {α : Type} {xs : List α} {i : Nat} {x : α} (h : xs[i]? = some x) :
    ∃ before after, xs = before ++ x :: after ∧ before.length = i := by
  obtain ⟨hi, rfl⟩ := List.getElem?_eq_some_iff.1 h
  obtain ⟨before, after, hxs, hlength, -⟩ := @List.exists_of_set _ _ xs[i] _ hi
  exact ⟨before, after, hxs, hlength⟩

/-- A list, tuple or mapping with one place left open. -/
inductive Frame where
  | list (before after : List Value)
  | tuple (before after : List Value)
  | dict (before : Entries) (key : Value) (after : Entries)
  | view (before : Entries) (key : Value) (after : Entries)

namespace Frame

def fill (frame : Frame) (x : Value) : Value :=
  match frame with
  | .list before after => .list (before ++ x :: after)
  | .tuple before after => .tuple (before ++ x :: after)
  | .dict before key after => .dict (before ++ (key, x) :: after)
  | .view before key after => .view (before ++ (key, x) :: after)

def step : Frame → Step
  | .list before _ | .tuple before _ => .index before.length
  | .dict _ key _ | .view _ key _ => .key key

/-- An element of a list or tuple stands in a frame, in which any other value could stand. -/
theorem exists_of_elements {v x : Value} {elements : List Value} {i : Nat} (hv : v.elements? = some elements)
    (hx : elements[i]? = some x) :
    ∃ (frame : Frame) (before after : List Value), frame.fill x = v ∧ frame.step = .index i ∧
      elements = before ++ x :: after ∧ before.length = i ∧
      ∀ y, (frame.fill y).elements? = some (before ++ y :: after) := by
  obtain ⟨before, after, rfl, rfl⟩ := exists_append_of_getElem? hx
  cases v <;> simp only [Value.elements?, Option.some.injEq, reduceCtorEq] at hv
  case list items =>
    exact ⟨.list before after, before, after, congrArg Value.list hv.symm, rfl, rfl, rfl, fun _ => rfl⟩
  case tuple items =>
    exact ⟨.tuple before after, before, after, congrArg Value.tuple hv.symm, rfl, rfl, rfl, fun _ => rfl⟩

/-- What stands under a key of a mapping stands in a frame, in which any other value could stand. -/
theorem exists_of_entries {v : Value} {entries : Entries} {entry : Value × Value} (hv : v.entries? = some entries)
    (hentry : entry ∈ entries) :
    ∃ (frame : Frame) (before after : Entries), frame.fill entry.2 = v ∧ frame.step = .key entry.1 ∧
      entries = before ++ entry :: after ∧ ∀ y, (frame.fill y).entries? = some (before ++ (entry.1, y) :: after) := by
  obtain ⟨before, after, rfl⟩ := List.append_of_mem hentry
  cases v <;> simp only [Value.entries?, Option.some.injEq, reduceCtorEq] at hv
  case dict entries =>
    exact ⟨.dict before entry.1 after, before, after, congrArg Value.dict hv.symm, rfl, rfl, fun _ => rfl⟩
  case view entries =>
    exact ⟨.view before entry.1 after, before, after, congrArg Value.view hv.symm, rfl, rfl, fun _ => rfl⟩

end Frame

/-- A document with one place left open, frame by frame from the outermost. -/
abbrev Context := List Frame

namespace Context

def fill (context : Context) (x : Value) : Value := context.foldr Frame.fill x

def steps (context : Context) : List Step := context.map Frame.step

end Context

theorem Entries.hasKey_eq_any_keys (entries : Entries) (key : Value) :
    entries.hasKey key = entries.keys.any (·.sameKey key) := by
  rw [hasKey, lookup?, Option.isSome_map, List.isSome_find?, keys, List.any_map]
  rfl

namespace Schema

theorem keyCauses_of_keys_eq {as bs : Entries} (h : as.keys = bs.keys) (properties : List (Property Schema))
    (required : List String) : keyCauses properties required as = keyCauses properties required bs := by
  simp only [keyCauses, unexpectedKeys, missingKeys, Entries.hasKey_eq_any_keys, h]

theorem elementParts_append_cons (items : Schema) (before after : List Value) (x : Value) :
    elementParts items (before ++ x :: after) 0 =
      elementParts items before 0 ++ ⟨.items, .index before.length, items, x⟩ ::
        elementParts items after (before.length + 1) := by
  rw [elementParts_append]
  simp [elementParts]

theorem placeParts_append_cons {above : List Schema} {before : List Value} (hlength : above.length = before.length)
    (below : List Schema) (after : List Value) (item : Schema) (x : Value) :
    placeParts (above ++ item :: below) (before ++ x :: after) 0 =
      placeParts above before 0 ++ ⟨.index before.length, .index before.length, item, x⟩ ::
        placeParts below after (before.length + 1) := by
  simp [placeParts, List.zip_append hlength, List.zipIdx_append, hlength]

theorem entryParts_append_cons (values : Schema) (before after : Entries) (key x : Value) :
    entryParts values (before ++ (key, x) :: after) =
      entryParts values before ++ ⟨.values, .key key, values, x⟩ :: entryParts values after := by
  simp [entryParts]

theorem propertyParts_append_cons {properties : List (Property Schema)} {key : Value} {property : Property Schema}
    (h : propertyFor? properties key = some property) (before after : Entries) (x : Value) :
    propertyParts properties (before ++ (key, x) :: after) =
      propertyParts properties before ++ ⟨.key property.key, .key key, property.schema, x⟩ ::
        propertyParts properties after := by
  simp [propertyParts, h]

/-- A part stands in a frame. Whatever stands there in its stead is checked in its stead, and neither what is wrong
with the value itself nor the other parts change. -/
theorem exists_frame {s : Schema} {v : Value} {part : Part} (h : part ∈ s.parts v) :
    ∃ (frame : Frame) (before after : List Part), frame.fill part.value = v ∧ frame.step = part.step ∧
      ∀ y, s.ownCauses (frame.fill y) = s.ownCauses v ∧
        s.parts (frame.fill y) = before ++ { part with value := y } :: after := by
  obtain ⟨items, elements, i, x, rfl, hv, hx, rfl⟩ | ⟨items, elements, i, item, x, rfl, hv, hlength, hitem, hx, rfl⟩ |
    ⟨values, entries, ⟨key, x⟩, rfl, hv, hentry, rfl⟩ |
    ⟨properties, required, entries, ⟨key, x⟩, property, rfl, hv, hrequired, hentry, hproperty, rfl⟩ := mem_parts h
  · obtain ⟨frame, before, after, hfill, hstep, rfl, rfl, hframe⟩ := Frame.exists_of_elements hv hx
    refine ⟨frame, elementParts items before 0, elementParts items after (before.length + 1), hfill, hstep,
      fun y => ⟨?_, ?_⟩⟩
    · simp only [ownCauses, Value.isSequence, hv, hframe, Option.isSome_some, if_true]
    · simp only [parts, hframe, Option.map_some, Option.getD_some]
      exact elementParts_append_cons items before after y
  · obtain ⟨frame, before, after, hfill, hstep, rfl, rfl, hframe⟩ := Frame.exists_of_elements hv hx
    obtain ⟨above, below, rfl, habove⟩ := exists_append_of_getElem? hitem
    have hlengths (y : Value) : (before ++ y :: after).length = (above ++ item :: below).length := by
      simpa using hlength
    refine ⟨frame, placeParts above before 0, placeParts below after (before.length + 1), hfill, hstep,
      fun y => ⟨?_, ?_⟩⟩
    · simp only [ownCauses, hv, hframe, hlengths]
    · simp only [parts, hframe, Option.map_some, Option.getD_some, hlengths, if_true]
      exact placeParts_append_cons habove below after item y
  · obtain ⟨frame, before, after, hfill, hstep, rfl, hframe⟩ := Frame.exists_of_entries hv hentry
    refine ⟨frame, entryParts values before, entryParts values after, hfill, hstep, fun y => ⟨?_, ?_⟩⟩
    · simp only [ownCauses, Value.isMapping, hv, hframe, Option.isSome_some, if_true]
    · simp only [parts, hframe, Option.map_some, Option.getD_some]
      exact entryParts_append_cons values before after key y
  · obtain ⟨frame, before, after, hfill, hstep, rfl, hframe⟩ := Frame.exists_of_entries hv hentry
    have hkeys (y : Value) :
        Entries.keys (before ++ (key, y) :: after) = Entries.keys (before ++ (key, x) :: after) := by
      simp [Entries.keys]
    refine ⟨frame, propertyParts properties before, propertyParts properties after, hfill, hstep, fun y => ⟨?_, ?_⟩⟩
    · simp only [ownCauses, hv, hframe]
      cases requiredNames? required with
      | none => rfl
      | some names => exact keyCauses_of_keys_eq (hkeys y) properties names
    · simp only [parts, hframe, Option.map_some, Option.getD_some, hrequired, if_true]
      exact propertyParts_append_cons hproperty before after y

theorem partIssues_append_cons (before after : List Part) (part : Part) :
    partIssues (before ++ part :: after) = (do
      let first ← partIssues before
      let found ← part.issues
      let last ← partIssues after
      return first ++ found ++ last) := by
  simp [partIssues_append, partIssues_cons]

end Schema

/-- However a document is completed at a place, the same issues stand around those of what completes it, unless
validation stops for other reasons anyway. -/
def Surrounds (place : Outcome String) (whole part : Value → Outcome (List Issue)) : Prop :=
  (∀ w found, whole w ≠ .ok found) ∨
  ∃ (before after : List Issue) (text : String), place = .ok text ∧
    ∀ w, whole w = (do return before ++ (← part w).map (·.under text) ++ after)

namespace Surrounds

variable {place place' : Outcome String} {f g h : Value → Outcome (List Issue)}

theorem refl (f : Value → Outcome (List Issue)) : Surrounds (.ok "") f f := by
  refine .inr ⟨[], [], "", rfl, fun w => ?_⟩
  cases f w <;> simp [Issue.under]

theorem comp (hfg : Surrounds place f g) (complete : Value → Value) :
    Surrounds place (f ∘ complete) (g ∘ complete) := by
  obtain hnever | ⟨before, after, text, hplace, hall⟩ := hfg
  · exact .inl fun w => hnever (complete w)
  · exact .inr ⟨before, after, text, hplace, fun w => hall (complete w)⟩

theorem trans (hfg : Surrounds place f g) (hgh : Surrounds place' g h) :
    Surrounds (do return (← place) ++ (← place')) f h := by
  obtain hnever | ⟨before, after, text, rfl, hall⟩ := hfg
  · exact .inl hnever
  obtain hnever | ⟨before', after', text', rfl, hall'⟩ := hgh
  · refine .inl fun w found hfound => ?_
    obtain ⟨inner, hinner, -⟩ := bind_eq_ok.1 (hall w ▸ hfound)
    exact hnever w inner hinner
  -- What stands around the inner issues is seen from further out; what stands around the outer ones stays.
  · refine .inr ⟨before ++ before'.map (·.under text), after'.map (·.under text) ++ after, text ++ text', rfl,
      fun w => ?_⟩
    rw [hall, hall']
    cases h w <;> simp [Issue.under_under]

end Surrounds

namespace Schema

/-- Around the issues of a part, the issues of the whole are the same for whatever stands there. -/
theorem exists_surrounding_frame {s : Schema} {v : Value} {part : Part} (h : part ∈ s.parts v) :
    ∃ frame : Frame, frame.fill part.value = v ∧ frame.step = part.step ∧
      Surrounds (do return "/" ++ (← part.step.text)) (s.issues ∘ frame.fill) part.schema.issues := by
  obtain ⟨frame, before, after, hfill, hstep, hframe⟩ := exists_frame h
  refine ⟨frame, hfill, hstep, ?_⟩
  have hissues (y : Value) : s.issues (frame.fill y) = (do
      let own ← s.ownCauses v
      let first ← partIssues before
      let step ← part.step.text
      let found ← part.schema.issues y
      let last ← partIssues after
      return own.map (·.issue) ++ (first ++ atStep step found ++ last)) := by
    simp only [issues_eq, (hframe y).1, (hframe y).2, partIssues_append_cons, Part.issues, bind_assoc, pure_bind]
  -- One completion for which validation ends shows what it says of everything else.
  by_cases hsome : ∃ y found, s.issues (frame.fill y) = .ok found
  · obtain ⟨y, found, hfound⟩ := hsome
    simp only [hissues, bind_eq_ok] at hfound
    obtain ⟨own, hown, first, hfirst, step, htext, -, -, last, hlast, -⟩ := hfound
    refine .inr ⟨own.map (·.issue) ++ first, last, "/" ++ step, by simp [htext], fun w => ?_⟩
    simp [hissues, hown, hfirst, htext, hlast, atStep]
  · exact .inl fun w found hfound => hsome ⟨w, found, hfound⟩

/-- Around the issues of what is checked at a location, the issues of the document are the same for whatever stands
there. -/
theorem Reaches.exists_surrounding_context {s t : Schema} {v x : Value} {origin steps : List Step}
    (h : s.Reaches v origin steps t x) :
    ∃ context : Context, context.fill x = v ∧ context.steps = steps ∧
      Surrounds (Step.path steps) (s.issues ∘ context.fill) t.issues := by
  induction h with
  | here s v => exact ⟨[], rfl, rfl, .refl _⟩
  | @part s v part _ steps t x hpart _ ih =>
    obtain ⟨frame, hfill, hstep, hframe⟩ := exists_surrounding_frame hpart
    obtain ⟨context, hinside, hsteps, hcontext⟩ := ih
    refine ⟨frame :: context, ?_, ?_, ?_⟩
    · exact (congrArg frame.fill hinside).trans hfill
    · exact congrArg₂ List.cons hstep hsteps
    · have hpath : Step.path (part.step :: steps) =
          (do return (← (do return "/" ++ (← part.step.text))) ++ (← Step.path steps)) := by
        simp [Step.path]
      rw [hpath]
      exact (hframe.comp context.fill).trans hcontext

end Schema

theorem surrounds_validate (schema : Value) (path : String) :
    Surrounds (.ok path) (validate schema · path) (Schema.ofValue schema).issues := by
  refine .inr ⟨[], [], path, rfl, fun w => ?_⟩
  simp [validate]

/-- Wherever validation comes to, some part of the schema is checked against what stands there. However that is
replaced, all issues of the replacement under that part of the schema are reported, and the same issues before and
after them; and if validation comes to an end for one replacement, it does for all that can be checked by themselves. -/
theorem validate_replaced_at_location {schema v x : Value} {origin steps : List Step} {t : Schema} (path : String)
    (h : (Schema.ofValue schema).Reaches v origin steps t x) :
    ∃ (node : Value) (context : Context), schema.HasNode origin node ∧ Schema.ofValue node = t ∧
      context.fill x = v ∧ context.steps = steps ∧
      ∃ before after : List Issue, ∀ w found, validate schema (context.fill w) path = .ok found →
        (∃ inner place, validate node w "" = .ok inner ∧ Step.path steps = .ok place ∧
          found = before ++ inner.map (·.under (path ++ place)) ++ after) ∧
        ∀ w' inner', validate node w' "" = .ok inner' → ∃ found', validate schema (context.fill w') path = .ok found' := by
  obtain ⟨node, hnode, rfl⟩ := h.exists_hasNode rfl
  obtain ⟨context, hfill, hsteps, hcontext⟩ := h.exists_surrounding_context
  refine ⟨node, context, hnode, rfl, hfill, hsteps, ?_⟩
  obtain hnever | ⟨before, after, text, htext, hall⟩ := ((surrounds_validate schema path).comp context.fill).trans hcontext
  · exact ⟨[], [], fun w found hfound => absurd hfound (hnever w found)⟩
  · obtain ⟨place, hplace, rfl⟩ : ∃ place, Step.path steps = .ok place ∧ path ++ place = text := by
      simpa [bind_eq_ok] using htext
    have hvalidate (w : Value) : validate schema (context.fill w) path =
        (do return before ++ (← validate node w "").map (·.under (path ++ place)) ++ after) := by
      rw [validate_root]
      exact hall w
    refine ⟨before, after, fun w found hfound => ⟨?_, fun w' inner' hinner' => ?_⟩⟩
    · rw [hvalidate, bind_eq_ok] at hfound
      obtain ⟨inner, hinner, hfound⟩ := hfound
      exact ⟨inner, place, hinner, hplace, (Except.ok.inj hfound).symm⟩
    · rw [hvalidate, hinner']
      exact ⟨_, rfl⟩

/-- An object with a list of names. -/
def listOfNames : Value := .ofFields [("type", .str "object"), ("properties", .ofFields [("names",
  .ofFields [("type", .str "array"), ("items", .ofFields [("type", .str "string")])])])]

/-- The second of three things in the list is a name, and there is another key before it. -/
def nameAmongOthers : Value := .ofFields [("extra", .null), ("names", .tuple [.bool true, .str "Ada", .null])]

/-- What stands in the stead of the name is checked as a text. -/
theorem validate_replaced_second_name :
    (Schema.ofValue listOfNames).Reaches nameAmongOthers [.key (.str "names"), .items]
      [.key (.str "names"), .index 1] (Schema.ofValue (.ofFields [("type", .str "string")])) (.str "Ada") ∧
    ∃ (node : Value) (context : Context), listOfNames.HasNode [.key (.str "names"), .items] node ∧
      Schema.ofValue node = Schema.ofValue (.ofFields [("type", .str "string")]) ∧
      context.fill (.str "Ada") = nameAmongOthers ∧ context.steps = [.key (.str "names"), .index 1] ∧
      ∃ before after : List Issue, ∀ w found, validate listOfNames (context.fill w) "" = .ok found →
        (∃ inner place, validate node w "" = .ok inner ∧
          Step.path [.key (.str "names"), .index 1] = .ok place ∧
          found = before ++ inner.map (·.under ("" ++ place)) ++ after) ∧
        ∀ w' inner', validate node w' "" = .ok inner' →
          ∃ found', validate listOfNames (context.fill w') "" = .ok found' := by
  refine (fun hreaches => ⟨hreaches, validate_replaced_at_location "" hreaches⟩) ?_
  refine @Schema.Reaches.part _ _ ⟨.key (.str "names"), .key (.str "names"), _, _⟩ _ _ _ _ (.head _) ?_
  exact @Schema.Reaches.part _ _ ⟨.items, .index 1, _, _⟩ _ _ _ _ (.tail _ (.head _)) (.here _ _)

end DataShape
