import DataShape.Proofs.Outcome
import DataShape.Proofs.Schema.Shape
import DataShape.Proofs.Value.Keys
import DataShape.Schema.Expression

/-! Type expressions are read in one way only: the text of a shape says where it ends, and no two shapes have
one text. So two schemas have the same type expression just if they have the same shape. -/

namespace DataShape

/-- The characters that have a meaning in type expressions. -/
def markCharacters : List Char := [' ', ':', '?', ';', ',', '\x7b', '\x7d', '[', ']', '<', '>']

/-- Can stand in a type expression as it is. -/
def IsPlainName (name : String) : Prop := ∀ c ∈ name.toList, c ∉ markCharacters

namespace Schema

/-- If this is an object, the keys of its properties are plain names. -/
def HasPlainNames : Schema → Prop
  | .object properties _ => ∀ property ∈ properties, ∃ name, property.key = .str name ∧ IsPlainName name
  | _ => True

end Schema

def readonlyMark : List Char := ['r', 'e', 'a', 'd', 'o', 'n', 'l', 'y', ' ']

def PropertyShape.label {α : Type} (property : PropertyShape α) : List Char :=
  (if property.isReadonly then readonlyMark else []) ++
    (property.name.toList ++ ((if property.isRequired then [] else ['?']) ++ [':', ' ']))

namespace Shape

mutual

def chars : Shape → List Char
  | .any => ['a', 'n', 'y']
  | .boolean => ['b', 'o', 'o', 'l', 'e', 'a', 'n']
  | .null => ['n', 'u', 'l', 'l']
  | .number => ['n', 'u', 'm', 'b', 'e', 'r']
  | .string => ['s', 't', 'r', 'i', 'n', 'g']
  | .undefined => ['u', 'n', 'd', 'e', 'f', 'i', 'n', 'e', 'd']
  | .array items => ['A', 'r', 'r', 'a', 'y', '<'] ++ (items.chars ++ ['>'])
  | .tuple items => '[' :: ([',', ' '].intercalate (elementChars items) ++ [']'])
  | .record values =>
    ['R', 'e', 'c', 'o', 'r', 'd', '<', 's', 't', 'r', 'i', 'n', 'g', ',', ' '] ++ (values.chars ++ ['>'])
  | .object properties => '\x7b' :: ([';', ' '].intercalate (propertyChars properties) ++ ['\x7d'])

def elementChars : List Shape → List (List Char)
  | [] => []
  | shape :: shapes => shape.chars :: elementChars shapes

def propertyChars : List (PropertyShape Shape) → List (List Char)
  | [] => []
  | ⟨name, isRequired, isReadonly, shape⟩ :: properties =>
    ((⟨name, isRequired, isReadonly, ()⟩ : PropertyShape Unit).label ++ shape.chars) :: propertyChars properties

end

theorem elementChars_eq_map (shapes : List Shape) : elementChars shapes = shapes.map chars := by
  induction shapes with
  | nil => rfl
  | cons shape shapes ih => rw [elementChars, ih, List.map_cons]

theorem propertyChars_eq_map (properties : List (PropertyShape Shape)) :
    propertyChars properties = properties.map fun property => property.label ++ property.shape.chars := by
  induction properties with
  | nil => rfl
  | cons property properties ih => rw [propertyChars, ih, List.map_cons]; rfl

end Shape

section Reading

variable {α : Type} {f : α → List Char} {c d : Char} {separator a b : List Char} {xs ys : List α}

/-- Two texts that are read up to the first of some characters are read alike. -/
theorem append_cons_inj_of_stops {stops : Char → Prop} {a b r t : List Char} {c d : Char} (ha : ∀ x ∈ a, ¬ stops x)
    (hb : ∀ x ∈ b, ¬ stops x) (hc : stops c) (hd : stops d) (h : a ++ c :: r = b ++ d :: t) :
    a = b ∧ c = d ∧ r = t := by
  induction a generalizing b with
  | nil =>
    cases b with
    | nil => exact ⟨rfl, List.cons.inj h⟩
    | cons y b =>
      obtain ⟨rfl, -⟩ := List.cons.inj h
      exact absurd hc (hb _ List.mem_cons_self)
  | cons x a ih =>
    cases b with
    | nil =>
      obtain ⟨rfl, -⟩ := List.cons.inj h
      exact absurd hd (ha _ List.mem_cons_self)
    | cons y b =>
      rw [List.forall_mem_cons] at ha hb
      obtain ⟨rfl, hrest⟩ := List.cons.inj h
      obtain ⟨rfl, rfl, rfl⟩ := ih ha.2 hb.2 hrest
      exact ⟨rfl, rfl, rfl⟩

theorem intercalate_cons_eq (separator part : List Char) (parts : List (List Char)) :
    separator.intercalate (part :: parts) = part ++ parts.flatMap (separator ++ ·) := by
  induction parts generalizing part with
  | nil => simp
  | cons next parts ih => simp only [List.intercalate_cons_cons, ih, List.flatMap_cons, List.append_assoc]

/-- Texts that are read in one way only, each after a separator, are read in one way only up to what closes
them. -/
theorem flatMap_append_inj (hcd : c ≠ d)
    (hinj : ∀ x ∈ xs, ∀ y ∈ ys, ∀ a b, f x ++ a = f y ++ b → x = y ∧ a = b)
    (h : xs.flatMap (fun x => c :: separator ++ f x) ++ d :: a =
      ys.flatMap (fun y => c :: separator ++ f y) ++ d :: b) : xs = ys ∧ a = b := by
  induction xs generalizing ys with
  | nil =>
    cases ys with
    | nil => exact ⟨rfl, (List.cons.inj h).2⟩
    | cons y ys => exact absurd (List.cons.inj h).1.symm hcd
  | cons x xs ih =>
    cases ys with
    | nil => exact absurd (List.cons.inj h).1 hcd
    | cons y ys =>
      simp only [List.flatMap_cons, List.cons_append, List.append_assoc, List.cons.injEq, true_and,
        List.append_cancel_left_eq] at h
      obtain ⟨rfl, hrest⟩ := hinj x List.mem_cons_self y List.mem_cons_self _ _ h
      obtain ⟨rfl, rfl⟩ := ih (fun x hx y hy => hinj x (List.mem_cons_of_mem _ hx) y (List.mem_cons_of_mem _ hy)) hrest
      exact ⟨rfl, rfl⟩

/-- Texts with separators between them are read in one way only up to what closes them. -/
theorem intercalate_append_inj (hcd : c ≠ d)
    (hinj : ∀ x ∈ xs, ∀ y ∈ ys, ∀ a b, f x ++ a = f y ++ b → x = y ∧ a = b)
    (hopen : ∀ x, x ∈ xs ∨ x ∈ ys → ∀ a b, f x ++ a ≠ d :: b)
    (h : (c :: separator).intercalate (xs.map f) ++ d :: a = (c :: separator).intercalate (ys.map f) ++ d :: b) :
    xs = ys ∧ a = b := by
  cases xs with
  | nil =>
    cases ys with
    | nil => exact ⟨rfl, (List.cons.inj h).2⟩
    | cons y ys =>
      rw [List.map_cons, intercalate_cons_eq, List.append_assoc] at h
      exact absurd h.symm (hopen y (.inr List.mem_cons_self) _ _)
  | cons x xs =>
    cases ys with
    | nil =>
      rw [List.map_cons, intercalate_cons_eq, List.append_assoc] at h
      exact absurd h (hopen x (.inl List.mem_cons_self) _ _)
    | cons y ys =>
      simp only [List.map_cons, intercalate_cons_eq, List.append_assoc, List.flatMap_map] at h
      obtain ⟨rfl, hrest⟩ := hinj x List.mem_cons_self y List.mem_cons_self _ _ h
      obtain ⟨rfl, rfl⟩ := flatMap_append_inj hcd
        (fun x hx y hy => hinj x (List.mem_cons_of_mem _ hx) y (List.mem_cons_of_mem _ hy)) hrest
      exact ⟨rfl, rfl⟩

end Reading

def EndsName (c : Char) : Prop := c = ' ' ∨ c = '?' ∨ c = ':'

theorem IsPlainName.not_endsName {name : String} (h : IsPlainName name) : ∀ c ∈ name.toList, ¬ EndsName c := by
  rintro c hc (rfl | rfl | rfl) <;> exact h _ hc (by decide)

/-- The mark of a property is read in one way only: a name that a space ends is the mark, and any other name
is that of the property. -/
theorem readonly_append_inj {r t : Bool} {a b : List Char} {c d : Char} {rest rest' : List Char}
    (ha : ∀ x ∈ a, ¬ EndsName x) (hb : ∀ x ∈ b, ¬ EndsName x) (hc : c = '?' ∨ c = ':') (hd : d = '?' ∨ d = ':')
    (h : (if r then readonlyMark else []) ++ (a ++ c :: rest) =
      (if t then readonlyMark else []) ++ (b ++ d :: rest')) : r = t ∧ a = b ∧ c :: rest = d :: rest' := by
  have hname {a : List Char} {c : Char} {rest tail : List Char} (ha : ∀ x ∈ a, ¬ EndsName x)
      (hc : c = '?' ∨ c = ':') : readonlyMark ++ tail ≠ a ++ c :: rest := by
    intro h
    have hmark : ∀ x ∈ ['r', 'e', 'a', 'd', 'o', 'n', 'l', 'y'], ¬ EndsName x := by simp [EndsName]
    obtain ⟨-, rfl, -⟩ := append_cons_inj_of_stops hmark ha (.inl rfl) (.inr hc) h
    exact absurd hc (by decide)
  cases r <;> cases t
  · obtain ⟨rfl, rfl, rfl⟩ := append_cons_inj_of_stops ha hb (.inr hc) (.inr hd) h
    exact ⟨rfl, rfl, rfl⟩
  · exact absurd h.symm (hname ha hc)
  · exact absurd h (hname hb hd)
  · obtain ⟨rfl, rfl, rfl⟩ := append_cons_inj_of_stops ha hb (.inr hc) (.inr hd) (List.append_cancel_left h)
    exact ⟨rfl, rfl, rfl⟩

/-- A property is read in one way only up to its type. -/
theorem PropertyShape.label_append_inj {α : Type} {p q : PropertyShape α} (hp : IsPlainName p.name)
    (hq : IsPlainName q.name) {a b : List Char} (h : p.label ++ a = q.label ++ b) :
    p.name = q.name ∧ p.isRequired = q.isRequired ∧ p.isReadonly = q.isReadonly ∧ a = b := by
  obtain ⟨name, isRequired, isReadonly, shape⟩ := p
  obtain ⟨name', isRequired', isReadonly', shape'⟩ := q
  cases isRequired <;> cases isRequired' <;> simp only [label, List.append_assoc, List.cons_append, List.nil_append,
    if_true, if_false, Bool.false_eq_true] at h
  all_goals
    obtain ⟨rfl, hname, hrest⟩ := readonly_append_inj hp.not_endsName hq.not_endsName (by simp) (by simp) h
    obtain rfl := String.toList_inj.1 hname
    simp_all

namespace Shape

theorem chars_append_ne_bracket (σ : Shape) (a b : List Char) : σ.chars ++ a ≠ ']' :: b := by
  cases σ <;> simp [chars]

theorem label_append_ne_brace {α : Type} {property : PropertyShape α} (h : IsPlainName property.name)
    (a b : List Char) : property.label ++ a ≠ '\x7d' :: b := by
  unfold PropertyShape.label
  cases property.isReadonly with
  | true => simp [readonlyMark]
  | false =>
    cases hname : property.name.toList with
    | nil => cases property.isRequired <;> simp
    | cons c cs =>
      have hc : c ≠ '\x7d' := by
        rintro rfl
        exact h _ (hname ▸ List.mem_cons_self) (by decide)
      simp [hc]

/-- The text of a shape is read in one way only, whatever follows it. -/
theorem chars_append_inj {σ τ : Shape} (hσ : σ.NamesAll IsPlainName) (hτ : τ.NamesAll IsPlainName)
    {a b : List Char} (h : σ.chars ++ a = τ.chars ++ b) : σ = τ ∧ a = b := by
  induction σ using induction_on_children generalizing τ a b with
  | step σ ih =>
    cases σ with
    | array items =>
      cases τ with
      | array items' =>
        simp only [chars, List.append_assoc, List.append_cancel_left_eq] at h
        obtain ⟨rfl, hrest⟩ := ih items (List.mem_singleton_self _) (hσ.child (List.mem_singleton_self _))
          (hτ.child (List.mem_singleton_self _)) h
        exact ⟨rfl, List.append_cancel_left hrest⟩
      | _ => simp [chars] at h
    | record values =>
      cases τ with
      | record values' =>
        simp only [chars, List.append_assoc, List.append_cancel_left_eq] at h
        obtain ⟨rfl, hrest⟩ := ih values (List.mem_singleton_self _) (hσ.child (List.mem_singleton_self _))
          (hτ.child (List.mem_singleton_self _)) h
        exact ⟨rfl, List.append_cancel_left hrest⟩
      | _ => simp [chars] at h
    | tuple items =>
      cases τ with
      | tuple items' =>
        simp only [chars, elementChars_eq_map, List.cons_append, List.append_assoc, List.nil_append,
          List.cons.injEq, true_and] at h
        obtain ⟨rfl, rfl⟩ := intercalate_append_inj (by decide)
          (fun x hx y hy a b => ih x hx (hσ.child hx) (hτ.child hy)) (fun x _ => x.chars_append_ne_bracket) h
        exact ⟨rfl, rfl⟩
      | _ => simp [chars] at h
    | object properties =>
      cases τ with
      | object properties' =>
        have hpiece : ∀ p ∈ properties, ∀ q ∈ properties', ∀ a b,
            (p.label ++ p.shape.chars) ++ a = (q.label ++ q.shape.chars) ++ b → p = q ∧ a = b := by
          intro p hp q hq a b hpq
          rw [List.append_assoc, List.append_assoc] at hpq
          obtain ⟨hname, hrequired, hreadonly, hrest⟩ :=
            PropertyShape.label_append_inj (hσ.property hp).1 (hτ.property hq).1 hpq
          obtain ⟨hshape, rfl⟩ := ih p.shape (List.mem_map_of_mem hp) (hσ.property hp).2 (hτ.property hq).2 hrest
          cases p
          cases q
          cases hname; cases hrequired; cases hreadonly; cases hshape
          exact ⟨rfl, rfl⟩
        have hopen : ∀ p, p ∈ properties ∨ p ∈ properties' → ∀ a b,
            (p.label ++ p.shape.chars) ++ a ≠ '\x7d' :: b := by
          intro p hp a b
          rw [List.append_assoc]
          rcases hp with hp | hp
          · exact label_append_ne_brace (hσ.property hp).1 _ _
          · exact label_append_ne_brace (hτ.property hp).1 _ _
        simp only [chars, propertyChars_eq_map, List.cons_append, List.append_assoc, List.nil_append,
          List.cons.injEq, true_and] at h
        obtain ⟨rfl, rfl⟩ := intercalate_append_inj (by decide) hpiece hopen h
        exact ⟨rfl, rfl⟩
      | _ => simp [chars] at h
    | _ => cases τ <;> first | exact ⟨rfl, List.append_cancel_left h⟩ | simp [chars] at h

end Shape

namespace Schema

/-- A text is the type expression of the shape of a schema, in which all names are plain. -/
structure IsShownAs (s : Schema) (text : String) (σ : Shape) : Prop where
  shape_eq : s.shape? = some σ
  names : σ.NamesAll IsPlainName
  text_eq : text.toList = σ.chars

theorem shapes_of_expressions {items : List Schema} {texts : List String} (h : expressions items = .ok texts)
    (hitems : ∀ item ∈ items, ∀ text, item.expression = .ok text → ∃ σ, item.IsShownAs text σ) :
    ∃ shapes, shapes? items = some shapes ∧ (∀ σ ∈ shapes, σ.NamesAll IsPlainName) ∧
      texts.map String.toList = Shape.elementChars shapes := by
  induction items generalizing texts with
  | nil =>
    cases h
    exact ⟨[], rfl, fun _ hσ => absurd hσ List.not_mem_nil, rfl⟩
  | cons item items ih =>
    rw [List.forall_mem_cons] at hitems
    simp only [expressions, bind_eq_ok, pure_eq_ok, Except.ok.injEq] at h
    obtain ⟨text, htext, texts, htexts, rfl⟩ := h
    obtain ⟨σ, hσ⟩ := hitems.1 text htext
    obtain ⟨shapes, hshapes, hnames, hchars⟩ := ih htexts hitems.2
    refine ⟨σ :: shapes, ?_, List.forall_mem_cons.2 ⟨hσ.names, hnames⟩, ?_⟩
    · simp [shapes?, hσ.shape_eq, hshapes]
    · rw [List.map_cons, Shape.elementChars, hσ.text_eq, hchars]

theorem toList_propertyText (required : List String) (name : String) (isReadonly : Bool) (type : String) :
    (propertyText required name ⟨.str name, isReadonly, ()⟩ type).toList =
      (⟨name, required.contains name, isReadonly, ()⟩ : PropertyShape Unit).label ++ type.toList := by
  have hrequired : (required.any fun r => (Value.str name).sameKey (.str r)) = required.contains name := by
    simp only [Value.sameKey, List.contains_eq_any_beq]
  have hmark : "readonly ".toList = readonlyMark := String.toList_ofList
  simp only [propertyText, hrequired, PropertyShape.label, apply_ite String.toList, String.toList_append,
    List.append_assoc, hmark]
  rfl

theorem shapes_of_propertyTexts {required : List String} {properties : List (Property Schema)}
    {texts : List String} (h : propertyTexts required properties = .ok texts)
    (hkeys : ∀ property ∈ properties, ∃ name, property.key = .str name ∧ IsPlainName name)
    (hproperties : ∀ property ∈ properties, ∀ text, property.schema.expression = .ok text →
      ∃ σ, property.schema.IsShownAs text σ) :
    ∃ shapes, propertyShapes? required properties = some shapes ∧
      (∀ p ∈ shapes, IsPlainName p.name ∧ p.shape.NamesAll IsPlainName) ∧
      texts.map String.toList = Shape.propertyChars shapes := by
  induction properties generalizing texts with
  | nil =>
    cases h
    exact ⟨[], rfl, fun _ hp => absurd hp List.not_mem_nil, rfl⟩
  | cons property properties ih =>
    obtain ⟨key, isReadonly, schema⟩ := property
    rw [List.forall_mem_cons] at hkeys hproperties
    obtain ⟨⟨name, rfl, hname⟩, hkeys⟩ := hkeys
    simp only [propertyTexts, bind_eq_ok, pure_eq_ok, Except.ok.injEq] at h
    obtain ⟨_, ⟨⟩, text, htext, texts, htexts, rfl⟩ := h
    obtain ⟨σ, hσ⟩ := hproperties.1 text htext
    obtain ⟨shapes, hshapes, hnames, hchars⟩ := ih htexts hkeys hproperties.2
    refine ⟨⟨name, required.contains name, isReadonly, σ⟩ :: shapes, ?_,
      List.forall_mem_cons.2 ⟨⟨hname, hσ.names⟩, hnames⟩, ?_⟩
    · simp [propertyShapes?, hσ.shape_eq, hshapes]
    · rw [List.map_cons, toList_propertyText, Shape.propertyChars, hσ.text_eq, hchars]

theorem exists_isShownAs {s : Schema} {text : String} (h : s.expression = .ok text)
    (hs : s.Everywhere HasPlainNames) : ∃ σ, s.IsShownAs text σ := by
  induction s using induction_on_children generalizing text with
  | step s ih =>
    have child {step : Step} {t : Schema} (ht : (step, t) ∈ s.children) (text : String)
        (htext : t.expression = .ok text) : ∃ σ, t.IsShownAs text σ :=
      ih (step, t) ht htext (hs.child ht)
    cases s with
    | invalid v => cases h
    | array items =>
      obtain ⟨text, htext, htype⟩ := bind_eq_ok.1 h
      cases htype
      obtain ⟨σ, hσ⟩ := child (List.mem_singleton_self _) text htext
      refine ⟨.array σ, by simp [shape?, hσ.shape_eq], .intro (by simp [Shape.names]) ?_, ?_⟩
      · exact fun τ hτ => List.mem_singleton.1 hτ ▸ hσ.names
      · rw [String.toList_append, String.toList_append, hσ.text_eq, List.append_assoc]
        rfl
    | record values =>
      obtain ⟨text, htext, htype⟩ := bind_eq_ok.1 h
      cases htype
      obtain ⟨σ, hσ⟩ := child (List.mem_singleton_self _) text htext
      refine ⟨.record σ, by simp [shape?, hσ.shape_eq], .intro (by simp [Shape.names]) ?_, ?_⟩
      · exact fun τ hτ => List.mem_singleton.1 hτ ▸ hσ.names
      · rw [String.toList_append, String.toList_append, hσ.text_eq, List.append_assoc]
        rfl
    | tuple items =>
      obtain ⟨texts, htexts, htype⟩ := bind_eq_ok.1 h
      cases htype
      obtain ⟨shapes, hshapes, hnames, hchars⟩ := shapes_of_expressions htexts fun item hitem => by
        obtain ⟨i, hi⟩ := List.mem_iff_getElem?.1 hitem
        have hmem : (Step.index i, item) ∈ (tuple items).children :=
          List.mem_map.2 ⟨(item, i), List.mk_mem_zipIdx_iff_getElem?.2 hi, rfl⟩
        exact child hmem
      refine ⟨.tuple shapes, by simp [shape?, hshapes], .intro (by simp [Shape.names]) hnames, ?_⟩
      rw [String.toList_append, String.toList_append, String.toList_intercalate, hchars, List.append_assoc]
      rfl
    | object properties required =>
      rw [expression] at h
      cases hrequired : requiredNames? required with
      | none =>
        rw [hrequired] at h
        cases hliteral : required.literal <;> simp [hliteral] at h
      | some names =>
        rw [hrequired] at h
        obtain ⟨texts, htexts, htype⟩ := bind_eq_ok.1 h
        cases htype
        obtain ⟨shapes, hshapes, hplain, hchars⟩ := shapes_of_propertyTexts htexts hs.here
          fun property hproperty => child (List.mem_map_of_mem hproperty)
        refine ⟨.object shapes, by simp [shape?, hrequired, hshapes], .intro ?_ ?_, ?_⟩
        · exact List.forall_mem_map.2 fun p hp => (hplain p hp).1
        · exact List.forall_mem_map.2 fun p hp => (hplain p hp).2
        · rw [String.toList_append, String.toList_append, String.toList_intercalate, hchars, List.append_assoc]
          rfl
    | _ =>
      cases h
      exact ⟨_, rfl, .intro (fun _ h => absurd h List.not_mem_nil) fun _ h => absurd h List.not_mem_nil, rfl⟩

end Schema

/-- Two schemas that have type expressions, with plain names as the keys of their properties, have the same
one just if they have the same shape. -/
theorem typeExpression_eq_iff_shape_eq (s t : Value) {a b : String} (hs : typeExpression s = .ok a)
    (ht : typeExpression t = .ok b) (hsnames : (Schema.ofValue s).Everywhere Schema.HasPlainNames)
    (htnames : (Schema.ofValue t).Everywhere Schema.HasPlainNames) :
    ∃ σ τ, (Schema.ofValue s).shape? = some σ ∧ (Schema.ofValue t).shape? = some τ ∧ (a = b ↔ σ = τ) := by
  obtain ⟨σ, hσ⟩ := Schema.exists_isShownAs hs hsnames
  obtain ⟨τ, hτ⟩ := Schema.exists_isShownAs ht htnames
  refine ⟨σ, τ, hσ.shape_eq, hτ.shape_eq, ?_, ?_⟩
  · intro htext
    have hchars : σ.chars ++ [] = τ.chars ++ [] := by rw [← hσ.text_eq, ← hτ.text_eq, htext]
    exact (Shape.chars_append_inj hσ.names hτ.names hchars).1
  · intro hshape
    rw [← String.toList_inj, hσ.text_eq, hτ.text_eq, hshape]

/-- A property with the name of the mark, and with the mark before it: a limit on its numbers does not show. -/
theorem shape_eq_of_limited_property :
    ∃ σ τ, (Schema.ofValue (.ofFields [("type", .str "object"), ("properties", .ofFields [("readonly",
        .ofFields [("type", .str "modified"), ("readonly", .bool true),
          ("item", .ofFields [("type", .str "number"), ("minimum", .int 0)])])])])).shape? = some σ ∧
      (Schema.ofValue (.ofFields [("type", .str "object"), ("properties", .ofFields [("readonly",
        .ofFields [("type", .str "modified"), ("readonly", .bool true),
          ("item", .ofFields [("type", .str "number")])])])])).shape? = some τ ∧
      ("\x7breadonly readonly?: number\x7d" = "\x7breadonly readonly?: number\x7d" ↔ σ = τ) := by
  have hnames (options : NumberRule → Value) :
      (Schema.object [⟨.str "readonly", true, .number options⟩] .null).Everywhere Schema.HasPlainNames := by
    refine .intro (fun property hproperty => ?_) fun child hchild => ?_
    · obtain rfl := List.mem_singleton.1 hproperty
      exact ⟨"readonly", rfl, by simp [IsPlainName, markCharacters]⟩
    · obtain rfl := List.mem_singleton.1 hchild
      exact .intro trivial fun _ h => absurd h List.not_mem_nil
  exact typeExpression_eq_iff_shape_eq _ _ rfl rfl (hnames _) (hnames _)

end DataShape
