import DataShape.Failure
import Mathlib.Data.List.Forall2

/-! Operations that can be stopped, one after the other. Each lemma reads what is known of a whole
sequence as something about its steps. -/

namespace DataShape

variable {ε α β γ : Type}

@[simp] theorem ok_bind (a : α) (f : α → Except ε β) : (Except.ok a >>= f) = f a := rfl

@[simp] theorem error_bind (e : ε) (f : α → Except ε β) : (Except.error e >>= f) = .error e := rfl

@[simp] theorem pure_eq_ok (a : α) : (pure a : Except ε α) = .ok a := rfl

@[simp] theorem throw_eq_error (e : ε) : (throw e : Except ε α) = .error e := rfl

theorem bind_eq_ok {x : Except ε α} {f : α → Except ε β} {b : β} :
    (x >>= f) = .ok b ↔ ∃ a, x = .ok a ∧ f a = .ok b := by
  cases x <;> simp

theorem bind_eq_error {x : Except ε α} {f : α → Except ε β} {e : ε} :
    (x >>= f) = .error e ↔ x = .error e ∨ ∃ a, x = .ok a ∧ f a = .error e := by
  cases x <;> simp

theorem map_eq_ok {x : Except ε α} {f : α → β} {b : β} : x.map f = .ok b ↔ ∃ a, x = .ok a ∧ f a = b := by
  cases x <;> simp [Except.map]

theorem mapError_bind {ε' : Type} (g : ε → ε') (x : Except ε α) (f : α → Except ε β) :
    (x >>= f).mapError g = x.mapError g >>= fun a => (f a).mapError g := by
  cases x <;> rfl

/-- A sequence comes to an end if its first step does, and then the rest. -/
theorem bind_succeeds {x : Except ε α} {f : α → Except ε β} (first : ∃ a, x = .ok a)
    (rest : ∀ a, x = .ok a → ∃ b, f a = .ok b) : ∃ b, (x >>= f) = .ok b := by
  obtain ⟨a, rfl⟩ := first
  exact rest a rfl

theorem mapM_succeeds {f : α → Except ε β} {xs : List α} :
    (∃ ys, xs.mapM f = .ok ys) ↔ ∀ x ∈ xs, ∃ y, f x = .ok y := by
  induction xs with
  | nil => simp
  | cons x xs ih =>
    simp only [List.mapM_cons, bind_eq_ok, List.forall_mem_cons, ← ih, pure_eq_ok, Except.ok.injEq]
    constructor
    · rintro ⟨_, y, hy, ys, hys, rfl⟩
      exact ⟨⟨y, hy⟩, ys, hys⟩
    · rintro ⟨⟨y, hy⟩, ys, hys⟩
      exact ⟨y :: ys, y, hy, ys, hys, rfl⟩

theorem exists_of_mem_mapM {f : α → Except ε β} {xs : List α} {ys : List β} (h : xs.mapM f = .ok ys)
    {y : β} (hy : y ∈ ys) : ∃ x ∈ xs, f x = .ok y := by
  induction xs generalizing ys with
  | nil => cases h; simp at hy
  | cons x xs ih =>
    simp only [List.mapM_cons, bind_eq_ok, pure_eq_ok, Except.ok.injEq] at h
    obtain ⟨first, hfirst, rest, hrest, rfl⟩ := h
    rcases List.mem_cons.1 hy with rfl | hy
    · exact ⟨x, List.mem_cons_self, hfirst⟩
    · obtain ⟨x', hx', hy'⟩ := ih hrest hy
      exact ⟨x', List.mem_cons_of_mem _ hx', hy'⟩

theorem mem_mapM_of_mem {f : α → Except ε β} {xs : List α} {ys : List β} (h : xs.mapM f = .ok ys)
    {x : α} (hx : x ∈ xs) : ∃ y ∈ ys, f x = .ok y := by
  induction xs generalizing ys with
  | nil => simp at hx
  | cons x' xs ih =>
    simp only [List.mapM_cons, bind_eq_ok, pure_eq_ok, Except.ok.injEq] at h
    obtain ⟨first, hfirst, rest, hrest, rfl⟩ := h
    rcases List.mem_cons.1 hx with rfl | hx
    · exact ⟨first, List.mem_cons_self, hfirst⟩
    · obtain ⟨y, hy, hxy⟩ := ih hrest hx
      exact ⟨y, List.mem_cons_of_mem _ hy, hxy⟩

theorem forall₂_of_mapM {f : α → Except ε β} {xs : List α} {ys : List β} (h : xs.mapM f = .ok ys) :
    List.Forall₂ (fun x y => f x = .ok y) xs ys := by
  induction xs generalizing ys with
  | nil => cases h; exact .nil
  | cons x xs ih =>
    simp only [List.mapM_cons, bind_eq_ok, pure_eq_ok, Except.ok.injEq] at h
    obtain ⟨first, hfirst, rest, hrest, rfl⟩ := h
    exact .cons hfirst (ih hrest)

theorem exists_of_mapM_eq_error {f : α → Except ε β} {xs : List α} {e : ε} (h : xs.mapM f = .error e) :
    ∃ x ∈ xs, f x = .error e := by
  induction xs with
  | nil => cases h
  | cons x xs ih =>
    rw [List.mapM_cons, bind_eq_error] at h
    rcases h with hx | ⟨y, -, h⟩
    · exact ⟨x, List.mem_cons_self, hx⟩
    · rcases bind_eq_error.1 h with hxs | ⟨ys, -, h⟩
      · obtain ⟨x', hx', hfail⟩ := ih hxs
        exact ⟨x', List.mem_cons_of_mem _ hx', hfail⟩
      · cases h

/-- Is stopped, if at all, by such a failure. -/
def StopsBy (E : ε → Prop) (x : Except ε α) : Prop := ∀ e, x = .error e → E e

section Stops

variable {E : ε → Prop}

theorem StopsBy.ok (a : α) : StopsBy E (.ok a) := by
  rintro e ⟨⟩

theorem StopsBy.bind {x : Except ε α} {f : α → Except ε β} (hx : StopsBy E x) (hf : ∀ a, StopsBy E (f a)) :
    StopsBy E (x >>= f) := by
  intro e he
  rcases bind_eq_error.1 he with he | ⟨a, -, he⟩
  · exact hx e he
  · exact hf a e he

theorem StopsBy.mapM {f : α → Except ε β} {xs : List α} (h : ∀ x ∈ xs, StopsBy E (f x)) : StopsBy E (xs.mapM f) := by
  intro e he
  obtain ⟨x, hx, he⟩ := exists_of_mapM_eq_error he
  exact h x hx e he

end Stops

theorem mapM_perm {f : α → Except ε β} {xs xs' : List α} {ys' : List β} (h : xs.Perm xs') (h' : xs'.mapM f = .ok ys') :
    ∃ ys, xs.mapM f = .ok ys ∧ ys.Perm ys' := by
  induction h generalizing ys' with
  | nil => exact ⟨ys', h', .refl _⟩
  | cons x _ ih =>
    simp only [List.mapM_cons, bind_eq_ok, pure_eq_ok, Except.ok.injEq] at h' ⊢
    obtain ⟨y, hy, rest', hrest', rfl⟩ := h'
    obtain ⟨rest, hrest, hperm⟩ := ih hrest'
    exact ⟨y :: rest, ⟨y, hy, rest, hrest, rfl⟩, hperm.cons y⟩
  | swap x x' rest =>
    simp only [List.mapM_cons, bind_eq_ok, pure_eq_ok, Except.ok.injEq] at h' ⊢
    obtain ⟨y, hy, _, ⟨y', hy', ys, hys, rfl⟩, rfl⟩ := h'
    exact ⟨y' :: y :: ys, ⟨y', hy', _, ⟨y, hy, ys, hys, rfl⟩, rfl⟩, .swap ..⟩
  | trans _ _ first second =>
    obtain ⟨zs, hzs, hsecond⟩ := second h'
    obtain ⟨ys, hys, hfirst⟩ := first hzs
    exact ⟨ys, hys, hfirst.trans hsecond⟩

/-- What there is for each of some items there is for all of them, one by one. -/
theorem exists_forall₂ {R : α → β → Prop} {xs : List α} (h : ∀ x ∈ xs, ∃ y, R x y) : ∃ ys, List.Forall₂ R xs ys := by
  induction xs with
  | nil => exact ⟨[], .nil⟩
  | cons x xs ih =>
    rw [List.forall_mem_cons] at h
    obtain ⟨⟨y, hy⟩, hxs⟩ := h
    obtain ⟨ys, hys⟩ := ih hxs
    exact ⟨y :: ys, .cons hy hys⟩

theorem mapM_eq_ok_nil {f : α → Except ε β} {xs : List α} : xs.mapM f = .ok [] ↔ xs = [] := by
  cases xs with
  | nil => simp
  | cons x xs => simp [List.mapM_cons, bind_eq_ok]

/-- Mapped operations have nothing to say together if none of them has. -/
theorem mapM_flatten_eq_nil {f : α → Except ε (List β)} {xs : List α} :
    (∃ ys, xs.mapM f = .ok ys ∧ ys.flatten = []) ↔ ∀ x ∈ xs, f x = .ok [] := by
  constructor
  · rintro ⟨ys, hys, hnil⟩ x hx
    obtain ⟨y, hy, hxy⟩ := mem_mapM_of_mem hys hx
    rw [hxy, List.flatten_eq_nil_iff.1 hnil y hy]
  · intro h
    obtain ⟨ys, hys⟩ := mapM_succeeds.2 fun x hx => ⟨[], h x hx⟩
    refine ⟨ys, hys, List.flatten_eq_nil_iff.2 fun y hy => ?_⟩
    obtain ⟨x, hx, hxy⟩ := exists_of_mem_mapM hys hy
    rw [h x hx] at hxy
    exact (Except.ok.inj hxy).symm

/-- Of mapped operations of which one alone has something to say, that one says all that they say together. -/
theorem mapM_flatten_eq_single {f : α → Except ε (List β)} {xs : List α} (hnodup : xs.Nodup) {x : α} (hx : x ∈ xs)
    (hother : ∀ y ∈ xs, y ≠ x → f y = .ok []) : (xs.mapM f).map List.flatten = f x := by
  induction xs with
  | nil => cases hx
  | cons first rest ih =>
    rw [List.nodup_cons] at hnodup
    rw [List.forall_mem_cons] at hother
    rw [List.mapM_cons]
    by_cases hfirst : first = x
    · subst hfirst
      obtain ⟨ys, hys, hnil⟩ := mapM_flatten_eq_nil.2 fun y hy => hother.2 y hy fun h => hnodup.1 (h ▸ hy)
      rw [hys]
      cases f first with
      | error e => rfl
      | ok found => simp [Except.map, hnil]
    · rw [hother.1 hfirst, ← ih hnodup.2 ((List.mem_cons.1 hx).resolve_left fun h => hfirst h.symm) hother.2]
      cases rest.mapM f <;> rfl

/-- What mapped operations say together, around what one of them says. -/
theorem flatten_mapM_append_cons_eq_ok {f : α → Except ε (List β)} {before after : List α} {x : α} {found : List β} :
    ((before ++ x :: after).mapM f).map List.flatten = .ok found ↔
      ∃ first own last, before.mapM f = .ok first ∧ f x = .ok own ∧ after.mapM f = .ok last ∧
        found = first.flatten ++ own ++ last.flatten := by
  rw [List.mapM_append, List.mapM_cons]
  cases before.mapM f with
  | error e => simp [Except.map]
  | ok first =>
    cases f x with
    | error e => simp [Except.map]
    | ok own => cases after.mapM f <;> simp [Except.map, eq_comm]

theorem mapM_map_result (f : α → Except ε β) (g : β → γ) (xs : List α) :
    (xs.mapM fun x => (f x).map g) = (xs.mapM f).map (List.map g) := by
  induction xs with
  | nil => rfl
  | cons x xs ih =>
    rw [List.mapM_cons, List.mapM_cons, ih]
    cases f x with
    | error e => rfl
    | ok y => cases xs.mapM f <;> rfl

theorem map_flatten_mapM (f : α → Except ε (List β)) (g : β → γ) (xs : List α) :
    ((xs.mapM f).map List.flatten).map (List.map g) = (xs.mapM fun x => (f x).map (List.map g)).map List.flatten := by
  rw [mapM_map_result]
  cases xs.mapM f <;> simp [Except.map, List.map_flatten]

theorem mapM_congr_of_mem {f g : α → Except ε β} {xs : List α} (h : ∀ x ∈ xs, f x = g x) : xs.mapM f = xs.mapM g := by
  induction xs with
  | nil => rfl
  | cons x xs ih =>
    rw [List.forall_mem_cons] at h
    rw [List.mapM_cons, List.mapM_cons, h.1, ih h.2]

theorem forM_eq_ok {f : α → Except ε Unit} {xs : List α} :
    forM xs f = .ok () ↔ ∀ x ∈ xs, f x = .ok () := by
  induction xs with
  | nil => simp
  | cons x xs ih =>
    rw [List.forM_cons, bind_eq_ok, List.forall_mem_cons, ← ih]
    exact ⟨fun ⟨_, hx, hxs⟩ => ⟨hx, hxs⟩, fun ⟨hx, hxs⟩ => ⟨(), hx, hxs⟩⟩

theorem forM_eq_error {f : α → Except ε Unit} {xs : List α} {e : ε} :
    forM xs f = .error e ↔
      ∃ before x after, xs = before ++ x :: after ∧ (∀ y ∈ before, f y = .ok ()) ∧ f x = .error e := by
  induction xs with
  | nil => simp
  | cons x xs ih =>
    rw [List.forM_cons, bind_eq_error, ih]
    constructor
    · rintro (hx | ⟨⟨⟩, hx, before, y, after, rfl, hbefore, hy⟩)
      · exact ⟨[], x, xs, rfl, by simp, hx⟩
      · refine ⟨x :: before, y, after, rfl, ?_, hy⟩
        simpa using ⟨hx, hbefore⟩
    · rintro ⟨before, y, after, heq, hbefore, hy⟩
      cases before with
      | nil =>
        obtain ⟨rfl, rfl⟩ := List.cons.inj heq
        exact .inl hy
      | cons first before =>
        obtain ⟨rfl, rfl⟩ := List.cons.inj heq
        rw [List.forall_mem_cons] at hbefore
        exact .inr ⟨(), hbefore.1, before, y, after, rfl, hbefore.2, hy⟩

theorem forM_congr {f g : α → Except ε Unit} {xs : List α} (h : ∀ x ∈ xs, f x = g x) : forM xs f = forM xs g := by
  induction xs with
  | nil => rfl
  | cons x xs ih =>
    rw [List.forall_mem_cons] at h
    rw [List.forM_cons, List.forM_cons, h.1, ih h.2]

/-- What goes through a list, and fails at items as it is known for each, fails as at the first item for which it is
known. -/
theorem forM_eq_findSome? {f : α → Except ε Unit} {g : α → Option β} {fail : β → Except ε Unit}
    {xs : List α} (h : ∀ x ∈ xs, f x = ((g x).map fail).getD (.ok ()) ∧ ∀ b, g x = some b → fail b ≠ .ok ()) :
    forM xs f = ((xs.findSome? g).map fail).getD (.ok ()) := by
  induction xs with
  | nil => rfl
  | cons x xs ih =>
    rw [List.forall_mem_cons] at h
    obtain ⟨⟨hx, hfail⟩, hxs⟩ := h
    rw [List.forM_cons, hx, List.findSome?_cons, ih hxs]
    cases hb : g x with
    | none => rfl
    | some b =>
      cases hfound : fail b with
      | ok u => exact absurd hfound (hfail b hb)
      | error e => simp [hfound]

/-- How an operation ends, its result left aside. -/
def ending (x : Except ε α) : Except ε Unit := x.map fun _ => ()

theorem ending_eq_ok {x : Except ε α} : ending x = .ok () ↔ ∃ a, x = .ok a := by
  cases x <;> simp [ending, Except.map]

theorem ending_eq_error {x : Except ε α} {e : ε} : ending x = .error e ↔ x = .error e := by
  cases x <;> simp [ending, Except.map]

theorem ending_bind (x : Except ε α) (f : α → Except ε β) : ending (x >>= f) = x >>= fun a => ending (f a) := by
  cases x <;> rfl

@[simp] theorem ending_ok (a : α) : ending (.ok a : Except ε α) = .ok () := rfl

@[simp] theorem ending_error (e : ε) : ending (.error e : Except ε α) = .error e := rfl

theorem ending_bind_ok (x : Except ε α) (f : α → β) : ending (x >>= fun a => .ok (f a)) = ending x := by
  cases x <;> rfl

theorem ending_mapM (f : α → Except ε β) (xs : List α) : ending (xs.mapM f) = forM xs fun x => ending (f x) := by
  induction xs with
  | nil => rfl
  | cons x xs ih =>
    rw [List.mapM_cons, List.forM_cons, ← ih]
    cases f x with
    | error e => rfl
    | ok y => simp [ending_bind_ok]

end DataShape
