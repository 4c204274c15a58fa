import DataShape.Proofs.Value.Parts

/-! Keys of mappings: which are the same as a text, every key being the same as itself, and what is kept when a mapping
is built entry by entry, above all that no key stands there twice. -/

namespace DataShape

theorem Exact.same_self {x : Exact} (h : x ≠ .nan) : x.same x = true := by
  cases x <;> simp_all [same]

theorem Exact.not_same_nan (x : Exact) : x.same .nan = false := by
  cases x <;> rfl

theorem Exact.same_euclidean {x y z : Exact} (hx : x.same z = true) (hy : y.same z = true) : x.same y = true := by
  cases z <;> cases x <;> simp_all [same] <;> cases y <;> simp_all

namespace Value

/-- Only a text is the same key as a text, and only the text itself. -/
theorem sameKey_str_iff {v : Value} {s : String} : v.sameKey (.str s) = true ↔ v = .str s := by
  cases v <;> simp [sameKey, toExact?]

theorem sameObject_cases {a b : Value} (h : a.sameObject b = true) :
    (∃ object, a = .float (.nan object) ∧ b = .float (.nan object)) ∨
      ∃ object negative signals payload negative' signals' payload',
        a = .decimal (.nan negative signals payload object) ∧ b = .decimal (.nan negative' signals' payload' object) := by
  unfold sameObject at h
  split at h
  · obtain rfl := of_decide_eq_true h
    exact .inl ⟨_, rfl, rfl⟩
  · obtain rfl := of_decide_eq_true h
    exact .inr ⟨_, _, _, _, _, _, _, rfl, rfl⟩
  · cases h

/-- Only what is not a number is known by its object. -/
theorem toExact?_of_sameObject {a b : Value} (h : a.sameObject b = true) :
    a.toExact? = some .nan ∧ b.toExact? = some .nan := by
  obtain ⟨_, rfl, rfl⟩ | ⟨_, _, _, _, _, _, _, rfl, rfl⟩ := sameObject_cases h <;> exact ⟨rfl, rfl⟩

theorem sameObject_self {v : Value} (h : v.toExact? = some .nan) : v.sameObject v = true := by
  cases v with
  | float x =>
    cases x with
    | nan object => simp [sameObject]
    | infinite negative => cases negative <;> cases h
    | finite _ _ _ => simp [toExact?, Exact.ofBinary64, Binary64.toRat?] at h
  | decimal d =>
    cases d with
    | nan _ _ _ object => simp [sameObject]
    | infinite negative => cases negative <;> cases h
    | finite _ _ _ => simp [toExact?, DecimalNumber.toExact] at h
  | _ => cases h

theorem sameObject_euclidean {a b key : Value} (ha : a.sameObject key = true) (hb : b.sameObject key = true) :
    a.sameObject b = true := by
  obtain ⟨_, rfl, rfl⟩ | ⟨_, _, _, _, _, _, _, rfl, rfl⟩ := sameObject_cases ha <;>
    obtain ⟨_, rfl, hkey⟩ | ⟨_, _, _, _, _, _, _, rfl, hkey⟩ := sameObject_cases hb <;> cases hkey <;>
    simp [sameObject]

theorem sameKey_of_toExact? {a b : Value} {y : Exact} (hb : b.toExact? = some y) :
    a.sameKey b = true ↔ ∃ x, a.toExact? = some x ∧ (a.sameObject b = true ∨ x.same y = true) := by
  cases b <;> simp only [toExact?, Option.some.injEq, reduceCtorEq] at hb <;> subst hb <;>
    cases a <;> simp [sameKey, toExact?]

theorem sameKeys_euclidean {keys : List Value}
    (h : ∀ key ∈ keys, ∀ a b : Value, a.sameKey key = true → b.sameKey key = true → a.sameKey b = true)
    {as bs : List Value} (ha : sameKeys as keys = true) (hb : sameKeys bs keys = true) : sameKeys as bs = true := by
  induction keys generalizing as bs with
  | nil => cases as <;> cases bs <;> simp_all [sameKeys]
  | cons key keys ih =>
    rw [List.forall_mem_cons] at h
    cases as with
    | nil => cases ha
    | cons a as =>
      cases bs with
      | nil => cases hb
      | cons b bs =>
        simp only [sameKeys, Bool.and_eq_true] at ha hb ⊢
        exact ⟨h.1 a b ha.1 hb.1, ih h.2 ha.2 hb.2⟩

/-- Keys that are the same as one key are the same. -/
theorem sameKey_euclidean {key a b : Value} (ha : a.sameKey key = true) (hb : b.sameKey key = true) :
    a.sameKey b = true := by
  induction key using induction_on_parts generalizing a b with
  | step key ih =>
    cases hkey : key.toExact? with
    | some z =>
      obtain ⟨x, hx, hxz⟩ := (sameKey_of_toExact? hkey).1 ha
      obtain ⟨y, hy, hyz⟩ := (sameKey_of_toExact? hkey).1 hb
      refine (sameKey_of_toExact? hy).2 ⟨x, hx, ?_⟩
      by_cases hz : z = .nan
      · subst hz
        simp only [Exact.not_same_nan, Bool.false_eq_true, or_false] at hxz hyz
        exact .inl (sameObject_euclidean hxz hyz)
      · have hequal {c : Value} (hc : c.sameObject key = true) : False := by
          rw [(toExact?_of_sameObject hc).2] at hkey
          exact hz (Option.some.inj hkey).symm
        exact .inr (Exact.same_euclidean (hxz.resolve_left hequal) (hyz.resolve_left hequal))
    | none =>
      cases key with
      | tuple keys | list keys =>
        cases a <;> simp only [sameKey, toExact?, Bool.false_eq_true] at ha
        cases b <;> simp only [sameKey, toExact?, Bool.false_eq_true] at hb
        rw [sameKey]
        exact sameKeys_euclidean (fun key hkey a b => ih key hkey) ha hb
      | _ =>
        cases a <;> simp [sameKey, toExact?] at ha hkey
        all_goals cases b <;> simp_all [sameKey, toExact?]

theorem unhashableAmong?_eq_none {items : List Value} :
    unhashable?.unhashableAmong? items = none ↔ ∀ v ∈ items, v.unhashable? = none := by
  induction items with
  | nil => simp [unhashable?.unhashableAmong?]
  | cons v vs ih =>
    rw [unhashable?.unhashableAmong?, List.forall_mem_cons, ← ih]
    cases v.unhashable? <;> simp

theorem sameKeys_self {keys : List Value} (h : ∀ key ∈ keys, key.sameKey key = true) : sameKeys keys keys = true := by
  induction keys with
  | nil => rfl
  | cons key keys ih =>
    rw [List.forall_mem_cons] at h
    rw [sameKeys, h.1, ih h.2]
    rfl

/-- A key is the same as itself, whether or not it is equal to itself. -/
theorem sameKey_self {key : Value} (hkey : key.unhashable? = none) : key.sameKey key = true := by
  induction key using induction_on_parts with
  | step key ih =>
    cases hexact : key.toExact? with
    | some x =>
      refine (sameKey_of_toExact? hexact).2 ⟨x, hexact, ?_⟩
      by_cases hx : x = .nan
      · subst hx
        exact .inl (sameObject_self hexact)
      · exact .inr (Exact.same_self hx)
    | none =>
      cases key with
      | tuple items =>
        rw [unhashable?, unhashableAmong?_eq_none] at hkey
        rw [sameKey]
        exact sameKeys_self fun item hitem => ih item hitem (hkey item hitem)
      | list _ | set _ | dict _ | view _ => cases hkey
      | bool _ | int _ | float _ | fraction _ | decimal _ => cases hexact
      | str _ | bytes _ => simp [sameKey]
      | null | undefined => rfl

theorem keyList?_list {items : List Value} {names : List String} :
    (list items).keyList? = some names ↔ items = names.map str := by
  induction items generalizing names with
  | nil => cases names <;> simp [keyList?, elements?]
  | cons item items ih =>
    simp only [keyList?, elements?, Option.bind_some] at ih ⊢
    rw [List.mapM_cons]
    cases names with
    | nil => cases item <;> simp [Option.bind_eq_some_iff]
    | cons name names => cases item <;> simp [Option.bind_eq_some_iff, ih, and_left_comm]

theorem keyList?_eq_some {given : Value} {names : List String} :
    given.keyList? = some names ↔ given.elements? = some (names.map .str) := by
  cases given with
  | list items | tuple items => exact keyList?_list.trans Option.some_inj.symm
  | _ => simp [keyList?, elements?]

/-- If this is a mapping, each of its keys differs from those before it. -/
def HasDistinctKeys (v : Value) : Prop :=
  ∀ entries, v.entries? = some entries → entries.keys.Pairwise fun a b => a.sameKey b = false

theorem hasDistinctKeys_dict {entries : Entries} :
    (dict entries).HasDistinctKeys ↔ entries.keys.Pairwise fun a b => a.sameKey b = false :=
  ⟨fun h => h entries rfl, by rintro h _ ⟨rfl⟩; exact h⟩

theorem hasDistinctKeys_of_not_mapping {v : Value} (h : v.entries? = none) : v.HasDistinctKeys := by
  intro entries hentries
  rw [h] at hentries
  cases hentries

/-- If this is a mapping, it can be built entry by entry: each of its keys can be one, and differs from those before
it. -/
structure HasProperKeys (v : Value) : Prop where
  distinct : v.HasDistinctKeys
  hashable : ∀ entries, v.entries? = some entries → ∀ key ∈ entries.keys, key.unhashable? = none

theorem hasProperKeys_dict {entries : Entries} (hdistinct : entries.keys.Pairwise fun a b => a.sameKey b = false)
    (hhashable : ∀ key ∈ entries.keys, key.unhashable? = none) : (dict entries).HasProperKeys :=
  ⟨hasDistinctKeys_dict.2 hdistinct, by rintro _ ⟨rfl⟩; exact hhashable⟩

theorem hasProperKeys_of_not_mapping {v : Value} (h : v.entries? = none) : v.HasProperKeys := by
  refine ⟨hasDistinctKeys_of_not_mapping h, fun entries hentries => ?_⟩
  rw [h] at hentries
  cases hentries

end Value

namespace Entries

theorem keys_put (entries : Entries) (key v : Value) :
    (Entries.put entries key v).keys =
      if entries.keys.any (·.sameKey key) then entries.keys else entries.keys ++ [key] := by
  induction entries with
  | nil => rfl
  | cons first rest ih =>
    have hcons (entries : Entries) : Entries.keys (first :: entries) = first.1 :: entries.keys := rfl
    rw [put, hcons, List.any_cons]
    cases hfirst : first.1.sameKey key with
    | true => rfl
    | false =>
      rw [if_neg Bool.false_ne_true, hcons, ih, Bool.false_or]
      split <;> rfl

/-- What holds of all keys and of all values still does when an entry is set. -/
theorem forall_put {P Q : Value → Prop} {entries : Entries} (h : ∀ entry ∈ entries, P entry.1 ∧ Q entry.2)
    {key v : Value} (hkey : P key) (hv : Q v) : ∀ entry ∈ Entries.put entries key v, P entry.1 ∧ Q entry.2 := by
  induction entries with
  | nil =>
    intro entry hentry
    rw [List.mem_singleton.1 hentry]
    exact ⟨hkey, hv⟩
  | cons first rest ih =>
    rw [List.forall_mem_cons] at h
    rw [put]
    split
    · exact List.forall_mem_cons.2 ⟨⟨h.1.1, hv⟩, h.2⟩
    · exact List.forall_mem_cons.2 ⟨h.1, ih h.2⟩

theorem ofPairs_induction {P : Entries → Prop} {pairs : List (Value × Value)} (nil : P [])
    (put : ∀ entries, P entries → ∀ pair ∈ pairs, P (Entries.put entries pair.1 pair.2)) : P (ofPairs pairs) := by
  suffices hfold : ∀ entries, P entries →
      P (pairs.foldl (fun entries pair => Entries.put entries pair.1 pair.2) entries) from hfold [] nil
  induction pairs with
  | nil => exact fun entries h => h
  | cons pair pairs ih =>
    rw [forall_congr' fun entries => imp_congr_right fun _ => List.forall_mem_cons] at put
    exact fun entries h => ih (fun entries h => (put entries h).2) _ (put entries h).1

theorem forall_ofPairs {P Q : Value → Prop} {pairs : List (Value × Value)}
    (h : ∀ pair ∈ pairs, P pair.1 ∧ Q pair.2) : ∀ entry ∈ ofPairs pairs, P entry.1 ∧ Q entry.2 := by
  refine ofPairs_induction (P := fun entries => ∀ entry ∈ entries, P entry.1 ∧ Q entry.2) ?_ ?_
  · exact fun _ h => absurd h List.not_mem_nil
  · exact fun _ hentries pair hpair => forall_put hentries (h pair hpair).1 (h pair hpair).2

theorem hasDistinctKeys_ofPairs (pairs : List (Value × Value)) : (Value.ofPairs pairs).HasDistinctKeys := by
  rw [Value.ofPairs, Value.hasDistinctKeys_dict]
  refine ofPairs_induction (P := fun entries => entries.keys.Pairwise fun a b => a.sameKey b = false) .nil ?_
  intro entries hentries pair _
  rw [keys_put]
  split
  · exact hentries
  · next hany =>
    rw [List.pairwise_append]
    refine ⟨hentries, List.pairwise_singleton _ _, fun key hkey b hb => ?_⟩
    rw [List.mem_singleton.1 hb]
    exact Bool.eq_false_iff.2 fun hsame => hany (List.any_eq_true.2 ⟨key, hkey, hsame⟩)

theorem put_of_new {entries : Entries} {key : Value} (h : ∀ entry ∈ entries, entry.1.sameKey key = false)
    (v : Value) : Entries.put entries key v = entries ++ [(key, v)] := by
  induction entries with
  | nil => rfl
  | cons first rest ih =>
    rw [List.forall_mem_cons] at h
    rw [put, if_neg (by rw [h.1]; exact Bool.false_ne_true), ih h.2, List.cons_append]

theorem ofPairs_eq_self {entries : Entries} (h : entries.keys.Pairwise fun a b => a.sameKey b = false) :
    ofPairs entries = entries := by
  suffices hfold : ∀ before : Entries, Entries.keys (before ++ entries) |>.Pairwise (fun a b => a.sameKey b = false) →
      entries.foldl (fun entries pair => Entries.put entries pair.1 pair.2) before = before ++ entries from hfold [] h
  clear h
  induction entries with
  | nil => exact fun before _ => (List.append_nil before).symm
  | cons first rest ih =>
    intro before h
    have hnew : ∀ entry ∈ before, entry.1.sameKey first.1 = false := by
      rw [keys, List.map_append, List.pairwise_append] at h
      exact fun entry hentry => h.2.2 _ (List.mem_map_of_mem hentry) _ List.mem_cons_self
    rw [List.append_cons] at h ⊢
    rw [List.foldl_cons, put_of_new hnew]
    exact ih _ h

theorem any_sameKey_put {entries : Entries} {key other : Value} (v : Value) (hkey : key.sameKey key = true)
    (h : entries.keys.any (·.sameKey key) = true ∨ other = key) :
    (Entries.put entries other v).keys.any (·.sameKey key) = true := by
  rw [keys_put]
  split
  · next hany =>
    rcases h with hthere | rfl
    · exact hthere
    · exact hany
  · rw [List.any_append, Bool.or_eq_true]
    refine h.imp_right ?_
    rintro rfl
    simpa using hkey

theorem any_sameKey_ofPairs {pairs : List (Value × Value)} {key : Value} (hkey : key.sameKey key = true)
    (h : ∃ pair ∈ pairs, pair.1 = key) : (ofPairs pairs).keys.any (·.sameKey key) = true := by
  suffices hfold : ∀ entries : Entries,
      (entries.keys.any (·.sameKey key) = true ∨ ∃ pair ∈ pairs, pair.1 = key) →
        (Entries.keys (pairs.foldl (fun entries pair => Entries.put entries pair.1 pair.2) entries)).any
          (·.sameKey key) = true from hfold [] (.inr h)
  clear h
  induction pairs with
  | nil =>
    rintro entries (hthere | ⟨pair, hpair, -⟩)
    · exact hthere
    · cases hpair
  | cons first rest ih =>
    rintro entries (hthere | ⟨pair, hpair, hpairKey⟩)
    · exact ih _ (.inl (any_sameKey_put _ hkey (.inl hthere)))
    · rcases List.mem_cons.1 hpair with rfl | hrest
      · exact ih _ (.inl (any_sameKey_put _ hkey (.inr hpairKey)))
      · exact ih _ (.inr ⟨pair, hrest, hpairKey⟩)

theorem exists_find?_ofPairs {keys : List Value} {key : Value} (hkey : key.sameKey key = true) (hmem : key ∈ keys)
    (v : Value) :
    ∃ entry, (ofPairs (keys.map fun key => (key, v))).find? (fun entry => entry.1.sameKey key) = some entry ∧
      entry.2 = v := by
  have hpair : ∃ pair ∈ keys.map fun key => (key, v), pair.1 = key := ⟨(key, v), List.mem_map_of_mem hmem, rfl⟩
  have hany := any_sameKey_ofPairs hkey hpair
  rw [Entries.keys, List.any_map, List.any_eq_true, ← List.find?_isSome, Option.isSome_iff_exists] at hany
  obtain ⟨entry, hentry⟩ := hany
  refine ⟨entry, hentry, ?_⟩
  refine (forall_ofPairs (P := fun _ => True) (Q := (· = v)) (fun pair hpair => ?_) entry
    (List.mem_of_find?_eq_some hentry)).2
  obtain ⟨key, -, rfl⟩ := List.mem_map.1 hpair
  exact ⟨trivial, rfl⟩

theorem str_mem_keys_ofPairs {pairs : List (Value × Value)} {name : String}
    (h : ∃ pair ∈ pairs, pair.1 = .str name) : .str name ∈ (ofPairs pairs).keys := by
  obtain ⟨key, hkey, hsame⟩ := List.any_eq_true.1 (any_sameKey_ofPairs (Value.sameKey_str_iff.2 rfl) h)
  rwa [Value.sameKey_str_iff.1 hsame] at hkey

theorem find?_eq_some_of_distinct {entries : Entries}
    (h : entries.keys.Pairwise fun a b => a.sameKey b = false) {entry : Value × Value} (hentry : entry ∈ entries)
    {key : Value} (hkey : entry.1.sameKey key = true) :
    entries.find? (fun other => other.1.sameKey key) = some entry := by
  induction entries with
  | nil => cases hentry
  | cons first rest ih =>
    have hcons : Entries.keys (first :: rest) = first.1 :: Entries.keys rest := rfl
    rw [hcons, List.pairwise_cons] at h
    rw [List.find?_cons]
    rcases List.mem_cons.1 hentry with rfl | hrest
    · rw [hkey]
    · have hfirst : first.1.sameKey key = false := by
        refine Bool.eq_false_iff.2 fun hsame => ?_
        have hboth := Value.sameKey_euclidean hsame hkey
        rw [h.1 _ (List.mem_map_of_mem hrest)] at hboth
        cases hboth
      rw [hfirst]
      exact ih h.2 hrest

theorem find?_of_keys_eq {as bs : Entries} (h : as.keys = bs.keys) {key : Value} {a : Value × Value}
    (ha : as.find? (fun entry => entry.1.sameKey key) = some a) :
    ∃ (i : Nat) (b : Value × Value), as[i]? = some a ∧ bs[i]? = some b ∧
      bs.find? (fun entry => entry.1.sameKey key) = some b := by
  induction as generalizing bs with
  | nil => cases ha
  | cons first as ih =>
    cases bs with
    | nil => cases h
    | cons first' bs =>
      obtain ⟨hfirst, hrest⟩ : first.1 = first'.1 ∧ Entries.keys as = Entries.keys bs := List.cons.inj h
      rw [List.find?_cons] at ha
      cases hsame : first.1.sameKey key with
      | true =>
        rw [hsame] at ha
        cases ha
        exact ⟨0, first', rfl, rfl, List.find?_cons_of_pos (by rwa [← hfirst])⟩
      | false =>
        rw [hsame] at ha
        obtain ⟨i, b, hai, hbi, hb⟩ := ih hrest ha
        refine ⟨i + 1, b, hai, hbi, ?_⟩
        rwa [List.find?_cons_of_neg (by rw [← hfirst, hsame]; exact Bool.false_ne_true)]

theorem find?_of_perm {entries entries' : Entries} (h : entries.keys.Pairwise fun a b => a.sameKey b = false)
    (hperm : entries.Perm entries') (key : Value) :
    entries'.find? (fun entry => entry.1.sameKey key) = entries.find? fun entry => entry.1.sameKey key := by
  cases hfound : entries'.find? fun entry => entry.1.sameKey key with
  | none =>
    rw [List.find?_eq_none] at hfound
    exact (List.find?_eq_none.2 fun entry hentry => hfound entry (hperm.mem_iff.1 hentry)).symm
  | some entry =>
    have hmem := hperm.mem_iff.2 (List.mem_of_find?_eq_some hfound)
    exact (find?_eq_some_of_distinct h hmem (by simpa using List.find?_some hfound)).symm

theorem find?_of_keys_eq_of_perm {as bs entries : Entries} (h : as.keys = bs.keys)
    (hdistinct : as.keys.Pairwise fun a b => a.sameKey b = false) (hperm : bs.Perm entries) (key : Value) :
    as.find? (fun entry => entry.1.sameKey key) = none ∧ entries.find? (fun entry => entry.1.sameKey key) = none ∨
      ∃ (i : Nat) (a b : Value × Value), as[i]? = some a ∧ bs[i]? = some b ∧
        as.find? (fun entry => entry.1.sameKey key) = some a ∧
        entries.find? (fun entry => entry.1.sameKey key) = some b := by
  rw [find?_of_perm (h ▸ hdistinct) hperm]
  cases ha : as.find? fun entry => entry.1.sameKey key with
  | none =>
    refine .inl ⟨rfl, ?_⟩
    cases hb : bs.find? fun entry => entry.1.sameKey key with
    | none => rfl
    | some b =>
      obtain ⟨_, a, -, -, hfound⟩ := find?_of_keys_eq h.symm hb
      rw [ha] at hfound
      cases hfound
  | some a =>
    obtain ⟨i, b, hai, hbi, hb⟩ := find?_of_keys_eq h ha
    exact .inr ⟨i, a, b, hai, hbi, rfl, hb⟩

theorem lookup?_cons (entry : Value × Value) (entries : Entries) (key : Value) :
    Entries.lookup? (entry :: entries) key = if entry.1.sameKey key then some entry.2 else entries.lookup? key := by
  rw [lookup?, List.find?_cons]
  cases entry.1.sameKey key <;> rfl

theorem lookup?_put (entries : Entries) (key name : String) (v : Value) :
    (Entries.put entries (.str key) v).lookup? (.str name) =
      if key = name then some v else entries.lookup? (.str name) := by
  have hsame {a : Value} (ha : a = .str key) : a.sameKey (.str name) = decide (key = name) := by
    rw [ha, Bool.eq_iff_iff, Value.sameKey_str_iff, Value.str.injEq, decide_eq_true_eq]
  induction entries with
  | nil =>
    rw [put, lookup?_cons, hsame rfl]
    by_cases h : key = name <;> simp [h]
  | cons first rest ih =>
    rw [put]
    split
    · next hfirst =>
      rw [lookup?_cons, lookup?_cons, hsame (Value.sameKey_str_iff.1 hfirst)]
      by_cases h : key = name <;> simp [h]
    · next hfirst =>
      rw [lookup?_cons, lookup?_cons, ih]
      by_cases h : key = name
      · subst h
        rw [if_neg hfirst, if_pos rfl, if_pos rfl]
      · rw [if_neg h, if_neg h]

theorem lookup?_eq_none {entries : Entries} {name : String} (h : .str name ∉ entries.keys) :
    entries.lookup? (.str name) = none := by
  rw [lookup?, Option.map_eq_none_iff, List.find?_eq_none]
  intro entry hentry hsame
  exact h (Value.sameKey_str_iff.1 hsame ▸ List.mem_map_of_mem hentry)

end Entries
end DataShape
