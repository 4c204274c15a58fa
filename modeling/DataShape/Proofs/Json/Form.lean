import DataShape.Number.FloatText
import DataShape.Proofs.Value.Keys

/-! What a JSON text keeps of a value: tuples become lists, and every key becomes a text. Of entries with one
key text the last counts, in the place of the first. Of what is not a number it keeps that it is none, and not which
object it is. -/

namespace DataShape

/-- The text of a key in a JSON text; nothing for what can be no key there. -/
def Json.keyName : Value → String
  | .str s => s
  | .null => "null"
  | .bool b => if b then "true" else "false"
  | .int n => intText n
  | .float x => x.textIn .json
  | _ => ""

namespace Value

mutual

/-- What is left of a value in a JSON text. -/
def jsonForm : Value → Value
  | .float x => .float x.asRead
  | .list items | .tuple items => .list (elementForms items)
  | .dict entries => .ofPairs (entryForms entries)
  | v => v

def elementForms : List Value → List Value
  | [] => []
  | v :: vs => v.jsonForm :: elementForms vs

def entryForms : List (Value × Value) → List (Value × Value)
  | [] => []
  | (key, v) :: entries => (.str (Json.keyName key), v.jsonForm) :: entryForms entries

end

mutual

/-- The value with every number in it, the keys left aside, as it is read. -/
def asRead : Value → Value
  | .float x => .float x.asRead
  | .list items => .list (elementsAsRead items)
  | .tuple items => .tuple (elementsAsRead items)
  | .dict entries => .dict (entriesAsRead entries)
  | v => v

def elementsAsRead : List Value → List Value
  | [] => []
  | v :: vs => v.asRead :: elementsAsRead vs

def entriesAsRead : List (Value × Value) → List (Value × Value)
  | [] => []
  | (key, v) :: entries => (key, v.asRead) :: entriesAsRead entries

end

theorem elementForms_eq_map (items : List Value) : elementForms items = items.map jsonForm := by
  induction items with
  | nil => rfl
  | cons v vs ih => rw [elementForms, ih, List.map_cons]

theorem entryForms_eq_map (entries : Entries) :
    entryForms entries = entries.map fun entry => (.str (Json.keyName entry.1), entry.2.jsonForm) := by
  induction entries with
  | nil => rfl
  | cons entry entries ih => rw [entryForms, ih, List.map_cons]

theorem elementsAsRead_eq_map (items : List Value) : elementsAsRead items = items.map asRead := by
  induction items with
  | nil => rfl
  | cons v vs ih => rw [elementsAsRead, ih, List.map_cons]

theorem entriesAsRead_eq_map (entries : Entries) :
    entriesAsRead entries = entries.map fun entry => (entry.1, entry.2.asRead) := by
  induction entries with
  | nil => rfl
  | cons entry entries ih => rw [entriesAsRead, ih, List.map_cons]

theorem lookup?_entryForms {entries : Entries} (h : entries.keys.Pairwise fun a b => a.sameKey b = false)
    {name : String} (hname : ∀ entry ∈ entries, Json.keyName entry.1 = name ↔ entry.1 = .str name) :
    (Entries.ofPairs (entryForms entries)).lookup? (.str name) = (entries.lookup? (.str name)).map jsonForm := by
  suffices hfold : ∀ before : Entries,
      Entries.lookup? ((entryForms entries).foldl (fun entries pair => Entries.put entries pair.1 pair.2) before)
        (.str name) = ((entries.lookup? (.str name)).map jsonForm).or (before.lookup? (.str name)) by
    have hnil := hfold []
    rwa [show Entries.lookup? [] (.str name) = none from rfl, Option.or_none] at hnil
  induction entries with
  | nil => exact fun before => rfl
  | cons first rest ih =>
    obtain ⟨key, v⟩ := first
    rw [List.forall_mem_cons] at hname
    rw [Entries.keys, List.map_cons, List.pairwise_cons] at h
    intro before
    rw [entryForms, List.foldl_cons, ih h.2 hname.2, Entries.lookup?_put, Entries.lookup?_cons]
    by_cases hkey : key = .str name
    · have hrest : Entries.lookup? rest (.str name) = none := by
        refine Entries.lookup?_eq_none fun hmem => ?_
        have hdiffer := h.1 _ hmem
        rw [hkey, sameKey_str_iff.2 rfl] at hdiffer
        cases hdiffer
      rw [hrest, if_pos (hname.1.2 hkey), if_pos (sameKey_str_iff.2 hkey)]
      rfl
    · rw [if_neg fun heq => hkey (hname.1.1 heq), if_neg fun heq => hkey (sameKey_str_iff.1 heq)]

theorem elements?_jsonForm (v : Value) : v.jsonForm.elements? = v.elements?.map (List.map jsonForm) := by
  cases v with
  | list items | tuple items => exact congrArg some (elementForms_eq_map items)
  | _ => rfl

theorem isNull_jsonForm (v : Value) : v.jsonForm.isNull = v.isNull := by
  cases v <;> rfl

/-- A value that is no tuple, nor a mapping with a key that is no text. -/
def IsJsonShaped : Value → Prop
  | .tuple _ => False
  | .dict entries => ∀ entry ∈ entries, ∃ name, entry.1 = .str name
  | _ => True

/-- A JSON text keeps everything of a value without tuples in which all keys are texts. -/
theorem jsonForm_eq_asRead {v : Value} (hshape : v.Everywhere IsJsonShaped) (hkeys : v.Everywhere HasDistinctKeys) :
    v.jsonForm = v.asRead := by
  induction v using induction_on_parts with
  | step v ih =>
    have hpart {x : Value} (hx : x ∈ v.parts) : x.jsonForm = x.asRead := ih x hx (hshape.part hx) (hkeys.part hx)
    cases v with
    | list items =>
      rw [jsonForm, asRead, elementForms_eq_map, elementsAsRead_eq_map]
      exact congrArg _ (List.map_congr_left fun x hx => hpart hx)
    | dict entries =>
      have hentry : ∀ entry ∈ entries,
          (Value.str (Json.keyName entry.1), entry.2.jsonForm) = (entry.1, entry.2.asRead) := by
        intro entry hentry
        obtain ⟨name, hname⟩ := hshape.here entry hentry
        rw [hpart (mem_parts_of_entries (v := .dict entries) rfl hentry).2, hname]
        rfl
      have hdistinct : (Entries.keys (entriesAsRead entries)).Pairwise fun a b => a.sameKey b = false := by
        rw [entriesAsRead_eq_map, Entries.keys, List.map_map]
        exact hkeys.here entries rfl
      rw [jsonForm, asRead, ofPairs, entryForms_eq_map, List.map_congr_left hentry, ← entriesAsRead_eq_map,
        Entries.ofPairs_eq_self hdistinct]
    | tuple items => exact hshape.here.elim
    | _ => rfl

/-- All numbers are read as they are. -/
theorem asRead_eq_self {v : Value} (h : v.Everywhere fun x => ∀ object, x ≠ .float (.nan object)) : v.asRead = v := by
  induction v using induction_on_parts with
  | step v ih =>
    have hpart {x : Value} (hx : x ∈ v.parts) : x.asRead = x := ih x hx (h.part hx)
    cases v with
    | float x =>
      cases x with
      | nan object => exact absurd rfl (h.here object)
      | infinite _ | finite _ _ _ => rfl
    | list items | tuple items =>
      rw [asRead, elementsAsRead_eq_map]
      exact congrArg _ ((List.map_congr_left fun x hx => hpart hx).trans (List.map_id items))
    | dict entries =>
      have hentry : ∀ entry ∈ entries, (entry.1, entry.2.asRead) = entry := by
        intro entry hentry
        rw [hpart (mem_parts_of_entries (v := .dict entries) rfl hentry).2]
      rw [asRead, entriesAsRead_eq_map, List.map_congr_left hentry, List.map_id']
    | _ => rfl

end Value
end DataShape
