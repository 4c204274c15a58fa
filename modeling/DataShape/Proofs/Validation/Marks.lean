import DataShape.Proofs.Validation.Likeness
import DataShape.Proofs.Value.Keys
import DataShape.Schema.Builder
import DataShape.Schema.Expression
import Mathlib.Data.Finset.Lattice.Lemmas
import Mathlib.Data.List.Nodup

/-! Marks of properties. However often a schema is marked, and in whatever order, the marks are flags of one wrapper
around it, and nothing that is said of the schema changes with them. -/

namespace DataShape

/-- What a property can be marked as. -/
inductive Mark where
  | optional | readonly
deriving DecidableEq

namespace Mark

def all : List Mark := [.optional, .readonly]

/-- The entry of a wrapper that sets the mark. -/
def flag : Mark → String
  | .optional => "optional"
  | .readonly => "readonly"

def set : Mark → Value → Outcome Value
  | .optional => Builder.optional
  | .readonly => Builder.readonly

def isSet (v : Value) : Mark → Bool
  | .optional => v.isOptional
  | .readonly => v.isReadonly

def setAll (marks : List Mark) (v : Value) : Outcome Value := marks.foldlM (fun v mark => mark.set v) v

/-- The entries of a wrapper with some marks. -/
def wrapperEntries (marks : Finset Mark) (item : Value) : Entries :=
  (.str "type", .str "modified") :: (.str "item", item) ::
    (all.filter (· ∈ marks)).map fun mark => (.str mark.flag, .bool true)

theorem mem_all (mark : Mark) : mark ∈ all := by cases mark <;> decide

theorem nodup_all : all.Nodup := by decide

theorem flag_injective : Function.Injective flag := by
  intro a b h
  cases a <;> cases b <;> first | rfl | exact absurd h (by decide)

theorem flag_ne_type (mark : Mark) : mark.flag ≠ "type" := by cases mark <;> decide

theorem flag_ne_item (mark : Mark) : mark.flag ≠ "item" := by cases mark <;> decide

theorem isSet_eq (v : Value) (mark : Mark) : mark.isSet v = (v.isModified && v.isFlagged mark.flag) := by
  cases mark <;> rfl

theorem set_eq (v : Value) (mark : Mark) :
    mark.set v = if mark.isSet v then .ok v else Builder.mark v mark.flag := by
  cases mark <;> rfl

theorem setAll_cons (mark : Mark) (marks : List Mark) (v : Value) :
    setAll (mark :: marks) v = mark.set v >>= setAll marks := List.foldlM_cons

theorem keys_wrapperEntries (marks : Finset Mark) (item : Value) : (wrapperEntries marks item).keys =
    ("type" :: "item" :: (all.filter (· ∈ marks)).map flag).map .str := by
  simp [wrapperEntries, Entries.keys]

theorem distinct_wrapperEntries (marks : Finset Mark) (item : Value) :
    (wrapperEntries marks item).keys.Pairwise fun a b => a.sameKey b = false := by
  have hflags : ((all.filter (· ∈ marks)).map flag).Nodup := (nodup_all.filter _).map flag_injective
  have hnames : ("type" :: "item" :: (all.filter (· ∈ marks)).map flag).Nodup := by
    refine List.nodup_cons.2 ⟨?_, List.nodup_cons.2 ⟨?_, hflags⟩⟩
    · simp [flag_ne_type]
    · simp [flag_ne_item]
  rw [keys_wrapperEntries, List.pairwise_map]
  exact hnames.imp fun hne => Bool.eq_false_iff.2 fun hsame => hne (Value.str.inj (Value.sameKey_str_iff.1 hsame))

theorem flag_not_mem_keys {entries : Entries} {marks : Finset Mark} {item : Value}
    (hperm : entries.Perm (wrapperEntries marks item)) {mark : Mark} (hmark : mark ∉ marks) :
    .str mark.flag ∉ entries.keys := by
  have hkeys : entries.keys.Perm (wrapperEntries marks item).keys := hperm.map Prod.fst
  rw [hkeys.mem_iff, keys_wrapperEntries]
  simp [flag_ne_type, flag_ne_item, flag_injective.eq_iff, hmark]

theorem perm_wrapperEntries_insert {marks : Finset Mark} {mark : Mark} (hmark : mark ∉ marks) (item : Value) :
    List.Perm (wrapperEntries marks item ++ [(.str mark.flag, .bool true)])
      (wrapperEntries (insert mark marks) item) := by
  have hmarks : (mark :: all.filter (· ∈ marks)).Perm (all.filter (· ∈ insert mark marks)) := by
    refine (List.perm_ext_iff_of_nodup ?_ (nodup_all.filter _)).2 fun other => ?_
    · refine List.nodup_cons.2 ⟨?_, nodup_all.filter _⟩
      simp [hmark]
    · simp [mem_all]
  have hflags := (List.perm_append_singleton mark _).trans hmarks
  have hentries := hflags.map fun mark => ((.str mark.flag, .bool true) : Value × Value)
  rw [List.map_append] at hentries
  exact (hentries.cons _).cons _

end Mark

namespace Value

open Mark

/-- A wrapper with some marks, its entries in any order. -/
def Wraps (v : Value) (marks : Finset Mark) (item : Value) : Prop :=
  ∃ entries, v = .dict entries ∧ entries.Perm (wrapperEntries marks item)

variable {v item : Value} {marks : Finset Mark}

theorem Wraps.field?_of_mem (h : v.Wraps marks item) {name : String} {x : Value}
    (hentry : (.str name, x) ∈ wrapperEntries marks item) : v.field? name = some x := by
  obtain ⟨entries, rfl, hperm⟩ := h
  have hdistinct := distinct_wrapperEntries marks item
  have hname : (str name).sameKey (.str name) = true := sameKey_str_iff.2 rfl
  rw [field?, entries?, Option.bind_some, Entries.lookup?, Entries.find?_of_perm hdistinct hperm.symm,
    Entries.find?_eq_some_of_distinct hdistinct hentry hname]
  rfl

theorem Wraps.tag?_eq (h : v.Wraps marks item) : v.tag? = some "modified" := by
  have htype : v.field? "type" = some (.str "modified") := h.field?_of_mem List.mem_cons_self
  rw [tag?, htype]

theorem Wraps.isModified (h : v.Wraps marks item) : v.isModified = true := by
  rw [Value.isModified, h.tag?_eq]
  rfl

theorem Wraps.item_eq (h : v.Wraps marks item) : v.field? "item" = some item :=
  h.field?_of_mem (List.mem_cons_of_mem _ List.mem_cons_self)

theorem Wraps.isSet_eq (h : v.Wraps marks item) (mark : Mark) : mark.isSet v = decide (mark ∈ marks) := by
  rw [Mark.isSet_eq, h.isModified, Bool.true_and, isFlagged]
  by_cases hmark : mark ∈ marks
  · have hentry : (.str mark.flag, .bool true) ∈ wrapperEntries marks item :=
      List.mem_cons_of_mem _ (List.mem_cons_of_mem _
        (List.mem_map.2 ⟨mark, List.mem_filter.2 ⟨mem_all mark, decide_eq_true hmark⟩, rfl⟩))
    rw [h.field?_of_mem hentry, decide_eq_true hmark]
  · obtain ⟨entries, rfl, hperm⟩ := h
    have hnone : (dict entries).field? mark.flag = none := Entries.lookup?_eq_none (flag_not_mem_keys hperm hmark)
    rw [hnone, decide_eq_false hmark]

theorem Wraps.unwrap_eq (h : v.Wraps marks item) : v.unwrap = .ok item := by
  rw [unwrap, h.isModified, if_pos rfl, h.item_eq]

/-- A wrapper is read as the schema that it is around; around what is no schema, it is read as none. So whatever does
not tell apart what is no schema says the same of both. -/
theorem Wraps.read_eq {α : Type} (h : v.Wraps marks item) (hbare : item.isModified = false) (f : Schema → α)
    (hinvalid : ∀ a b : Value, f (.invalid a) = f (.invalid b)) :
    f (Schema.ofValue v) = f (Schema.ofValue item) := by
  have hof : Schema.ofNode? v = if item.isSchema then some (Schema.ofValue item) else none := by
    simp only [Schema.ofNode?, h.tag?_eq, h.item_eq, Option.filter, hbare]
    cases item.isSchema <;> rfl
  cases hschema : item.isSchema with
  | true =>
    rw [hschema, if_pos rfl] at hof
    rw [Schema.ofValue_of_ofNode? hof]
  | false =>
    rw [hschema, if_neg Bool.false_ne_true] at hof
    obtain ⟨w, hw⟩ := Schema.isSchema_eq_false_iff.1 hschema
    rw [Schema.ofValue_eq, hof, Option.getD_none, hw, hinvalid]

/-- The first mark puts a wrapper around a mapping that is none. -/
theorem wraps_set (hmapping : item.isMapping = true) (hbare : item.isModified = false) (mark : Mark) :
    ∃ w, mark.set item = .ok w ∧ w.Wraps {mark} item := by
  obtain ⟨entries, hentries⟩ := Option.isSome_iff_exists.1 hmapping
  rw [set_eq, Mark.isSet_eq, Builder.mark, hbare, hentries]
  refine ⟨_, rfl, _, rfl, ?_⟩
  cases mark <;> exact .refl _

/-- A further mark is set on the wrapper that is there; one that is set already changes nothing. -/
theorem Wraps.set (h : v.Wraps marks item) (mark : Mark) :
    ∃ w, mark.set v = .ok w ∧ w.Wraps (insert mark marks) item := by
  rw [set_eq, h.isSet_eq]
  by_cases hmark : mark ∈ marks
  · rw [decide_eq_true hmark, if_pos rfl, Finset.insert_eq_of_mem hmark]
    exact ⟨v, rfl, h⟩
  · have hmodified := h.isModified
    obtain ⟨entries, rfl, hperm⟩ := h
    have hnew : ∀ entry ∈ entries, entry.1.sameKey (.str mark.flag) = false := by
      intro entry hentry
      refine Bool.eq_false_iff.2 fun hsame => flag_not_mem_keys hperm hmark ?_
      exact sameKey_str_iff.1 hsame ▸ List.mem_map_of_mem hentry
    rw [decide_eq_false hmark, if_neg Bool.false_ne_true, Builder.mark, hmodified]
    refine ⟨_, rfl, _, rfl, ?_⟩
    rw [Entries.put_of_new hnew]
    exact (hperm.append_right _).trans (perm_wrapperEntries_insert hmark item)

theorem Wraps.setAll (h : v.Wraps marks item) (further : List Mark) :
    ∃ w, setAll further v = .ok w ∧ w.Wraps (marks ∪ further.toFinset) item := by
  induction further generalizing v marks with
  | nil => exact ⟨v, rfl, by rwa [List.toFinset_nil, Finset.union_empty]⟩
  | cons mark further ih =>
    obtain ⟨u, hu, hwraps⟩ := h.set mark
    obtain ⟨w, hw, hall⟩ := ih hwraps
    refine ⟨w, by rw [setAll_cons, hu, ok_bind, hw], ?_⟩
    rwa [List.toFinset_cons, Finset.union_insert, ← Finset.insert_union]

theorem wraps_setAll (hmapping : item.isMapping = true) (hbare : item.isModified = false) {marks : List Mark}
    (hmarks : marks ≠ []) : ∃ w, Mark.setAll marks item = .ok w ∧ w.Wraps marks.toFinset item := by
  cases marks with
  | nil => exact absurd rfl hmarks
  | cons mark further =>
    obtain ⟨u, hu, hwraps⟩ := wraps_set hmapping hbare mark
    obtain ⟨w, hw, hall⟩ := hwraps.setAll further
    refine ⟨w, by rw [setAll_cons, hu, ok_bind, hw], ?_⟩
    rwa [List.toFinset_cons, Finset.insert_eq]

end Value

/-- Marked at least once, a mapping that is no wrapper stands in a single wrapper that has just the marks that were set.
Neither their order nor how often they were set counts, and the wrapper is a schema, validates values and is written as
what it is around, whether or not that is a schema. -/
theorem marks_form_one_wrapper {s : Value} (hmapping : s.isMapping = true) (hbare : s.isModified = false)
    {marks : List Mark} (hmarks : marks ≠ []) :
    ∃ w, Mark.setAll marks s = .ok w ∧ w.Wraps marks.toFinset s ∧
      (w.isOptional = true ↔ .optional ∈ marks) ∧ (w.isReadonly = true ↔ .readonly ∈ marks) ∧
      w.unwrap = .ok s ∧ w.isSchema = s.isSchema ∧
      (∀ v path, validate w v path = validate s v path) ∧ typeExpression w = typeExpression s ∧
      ∀ marks' : List Mark, (∀ mark, mark ∈ marks' ↔ mark ∈ marks) →
        ∃ w', Mark.setAll marks' s = .ok w' ∧ w'.Wraps marks.toFinset s := by
  obtain ⟨w, hw, hwraps⟩ := Value.wraps_setAll hmapping hbare hmarks
  have hset (mark : Mark) : mark.isSet w = true ↔ mark ∈ marks := by
    rw [hwraps.isSet_eq, decide_eq_true_eq, List.mem_toFinset]
  refine ⟨w, hw, hwraps, hset .optional, hset .readonly, hwraps.unwrap_eq,
    hwraps.read_eq hbare Schema.isValid fun _ _ => rfl, fun v path => ?_,
    hwraps.read_eq hbare Schema.expression fun _ _ => rfl, ?_⟩
  · have hissues := hwraps.read_eq hbare (·.issues v) fun a b => (Schema.Alike.invalid a b).issues_eq v
    rw [validate, validate, hissues]
  · intro marks' hsame
    have hmarks' : marks' ≠ [] := by
      rintro rfl
      obtain ⟨mark, hmark⟩ := List.exists_mem_of_ne_nil marks hmarks
      exact List.not_mem_nil ((hsame mark).2 hmark)
    have heq : marks'.toFinset = marks.toFinset := by
      ext mark
      rw [List.mem_toFinset, List.mem_toFinset, hsame]
    exact heq ▸ Value.wraps_setAll hmapping hbare hmarks'

/-- Marked three times, a schema of numbers stands in one wrapper with two flags, under which its bound is kept. -/
theorem marks_of_bounded_number : ∃ w,
    Mark.setAll [.readonly, .optional, .readonly] (.ofFields [("type", .str "number"), ("minimum", .int 0)]) =
      .ok w ∧
    w = .ofFields [("type", .str "modified"), ("item", .ofFields [("type", .str "number"), ("minimum", .int 0)]),
      ("readonly", .bool true), ("optional", .bool true)] ∧
    w.isOptional = true ∧ w.isReadonly = true ∧
    validate w (.int (-1)) "/size" =
      validate (.ofFields [("type", .str "number"), ("minimum", .int 0)]) (.int (-1)) "/size" := by
  obtain ⟨w, hw, -, hoptional, hreadonly, -, -, hvalidate, -, -⟩ :=
    @marks_form_one_wrapper (.ofFields [("type", .str "number"), ("minimum", .int 0)]) rfl rfl
      [.readonly, .optional, .readonly] (by simp)
  refine ⟨w, hw, ?_, hoptional.2 (by simp), hreadonly.2 (by simp), hvalidate _ _⟩
  cases hw
  rfl

end DataShape
