import DataShape.Proofs.Json.Float
import DataShape.Proofs.Json.Form
import DataShape.Proofs.Json.Text
import DataShape.Proofs.Outcome
import DataShape.Proofs.Value.Limit
import DataShape.Text.NewLine

/-! Written JSON texts by their tokens. White space, line ends of every kind included, stands between tokens
only, so the tokens of a text are those of the value, however the text is indented. -/

namespace DataShape.Json

def readTokens (cs : List Char) : List Token := tokens (unifyNewLines cs)

theorem unifyNewLines_append {a : List Char} (ha : '\r' ∉ a) (b : List Char) :
    unifyNewLines (a ++ b) = a ++ unifyNewLines b := by
  induction a with
  | nil => rfl
  | cons c a ih =>
    rw [List.mem_cons, not_or] at ha
    rw [List.cons_append, unifyNewLines, if_neg (Ne.symm ha.1), ih ha.2]
    · rfl
    · intro rest hc _
      exact ha.1 hc.symm

theorem unifyNewLines_cons {c : Char} (hc : c ≠ '\r') (b : List Char) :
    unifyNewLines (c :: b) = c :: unifyNewLines b := by
  have hsplit := unifyNewLines_append (a := [c]) (by simpa using Ne.symm hc) b
  rwa [List.singleton_append, List.singleton_append] at hsplit

theorem unifyNewLines_return (b : List Char) :
    ∃ rest, unifyNewLines ('\r' :: b) = '\n' :: unifyNewLines rest ∧ (b = rest ∨ b = '\n' :: rest) := by
  rw [unifyNewLines.eq_def]
  split
  · next heq =>
    cases heq
    exact ⟨_, rfl, .inr rfl⟩
  · next heq =>
    cases heq
    exact ⟨_, rfl, .inl rfl⟩
  · next heq => cases heq

/-- White space is no token, and a carriage return belongs to the line feed behind it. -/
theorem readTokens_space {c : Char} (h : isSpace c = true) (b : List Char) :
    readTokens (c :: b) = readTokens b := by
  by_cases hc : c = '\r'
  · subst hc
    obtain ⟨rest, hrest, rfl | rfl⟩ := unifyNewLines_return b
    · rw [readTokens, hrest, tokens_space rfl, readTokens]
    · rw [readTokens, hrest, tokens_space rfl, readTokens, unifyNewLines_cons (by decide), tokens_space rfl]
  · rw [readTokens, unifyNewLines_cons hc]
    exact tokens_space h

theorem readTokens_spaces {a : List Char} (ha : ∀ c ∈ a, isSpace c = true) (b : List Char) :
    readTokens (a ++ b) = readTokens b := by
  induction a with
  | nil => rfl
  | cons c a ih =>
    rw [List.forall_mem_cons] at ha
    rw [List.cons_append, readTokens_space ha.1, ih ha.2]

theorem Delimited.unifyNewLines {b : List Char} (h : Delimited b) : Delimited (unifyNewLines b) := by
  cases b with
  | nil => exact h
  | cons c b =>
    by_cases hc : c = '\r'
    · subst hc
      obtain ⟨rest, hrest, -⟩ := unifyNewLines_return b
      rw [hrest]
      rintro d ⟨rfl⟩
      exact .inr (.inr (.inr (.inl rfl)))
    · rw [unifyNewLines_cons hc]
      rintro d ⟨rfl⟩
      exact h.head

theorem readTokens_bracket {c : Char} {token : Token} (hc : c ≠ '\r') (hspace : isSpace c = false)
    (hscan : ∀ cs, scan (c :: cs) = (token, 1)) (b : List Char) :
    readTokens (c :: b) = token :: readTokens b := by
  rw [readTokens, unifyNewLines_cons hc, tokens_cons hspace, hscan]
  rfl

/-- The text is read as these tokens in front of whatever can follow a value. -/
def Spells (text : String) (expected : List Token) : Prop :=
  ∀ b, Delimited b → readTokens (text.toList ++ b) = expected ++ readTokens b

theorem spells_of_single {text : String} {token : Token} (hreturn : '\r' ∉ text.toList)
    (htokens : tokens text.toList = [token]) (htoken : token.IsPlain) : Spells text [token] := by
  intro b hb
  rw [readTokens, unifyNewLines_append hreturn]
  exact tokens_append_of_single htokens htoken hb.unifyNewLines

theorem return_not_mem_escape (c : Char) : '\r' ∉ escape c := by
  obtain ⟨letter, hescape, -, hshort⟩ | ⟨hcontrol, hescape⟩ | ⟨hescape, -, -, hplain⟩ := escape_cases c
  · rw [hescape]
    simp only [List.mem_cons, List.not_mem_nil, or_false, not_or]
    refine ⟨by decide, ?_⟩
    rintro rfl
    cases hshort
  · rw [hescape, (codeUnit?_hexDigits c.toNat hcontrol).1]
    have hdigit (n : Nat) : '\r' ≠ n.digitChar := (Nat.digitChar_ne '\r' (by decide)).symm
    simp [hdigit]
  · rw [hescape]
    intro hmem
    obtain rfl := List.mem_singleton.1 hmem
    exact hplain (by decide)

theorem readTokens_stringText (s : String) (b : List Char) :
    readTokens ((stringText s).toList ++ b) = .string s :: readTokens b := by
  have hreturn : '\r' ∉ (stringText s).toList := by
    rw [toList_stringText]
    simp only [List.mem_cons, List.mem_append, List.mem_flatMap, List.not_mem_nil, or_false, not_or, not_exists,
      not_and]
    exact ⟨by decide, fun c _ => return_not_mem_escape c, by decide⟩
  rw [readTokens, unifyNewLines_append hreturn]
  exact tokens_stringText s _

def IsBlank (indent : Option String) : Prop := ∀ unit, indent = some unit → ∀ c ∈ unit.toList, isSpace c = true

theorem readTokens_newLine {unit : String} (hunit : ∀ c ∈ unit.toList, isSpace c = true) (level : Nat)
    (b : List Char) : readTokens ((newLine unit level).toList ++ b) = readTokens b := by
  refine readTokens_spaces (fun c hc => ?_) b
  rw [newLine, String.toList_append, String.toList_join, List.mem_append, List.mem_flatMap] at hc
  obtain hc | ⟨unit', hmem, hc⟩ := hc
  · obtain rfl := List.mem_singleton.1 (show c ∈ ['\n'] from hc)
    rfl
  · rw [(List.mem_replicate.1 hmem).2] at hc
    exact hunit c hc

theorem newLine_delimited (unit : String) (level : Nat) (b : List Char) :
    Delimited ((newLine unit level).toList ++ b) := by
  intro c hc
  rw [newLine, String.toList_append, List.append_assoc] at hc
  cases hc
  exact .inr (.inr (.inr (.inl rfl)))

/-- Parts with separators between them are read one after the other, with commas between them. -/
theorem spells_intercalate {separator : String}
    (hcomma : ∀ b, readTokens (separator.toList ++ b) = .comma :: readTokens b)
    (hdelimited : ∀ b, Delimited (separator.toList ++ b)) {parts : List String} {spelled : List (List Token)}
    (h : List.Forall₂ Spells parts spelled) (hne : parts ≠ []) :
    Spells (separator.intercalate parts) ([Token.comma].intercalate spelled) := by
  induction h with
  | nil => exact absurd rfl hne
  | @cons part ts parts spelled hpart hparts ih =>
    intro b hb
    cases hparts with
    | nil =>
      rw [String.intercalate_singleton, List.intercalate_singleton]
      exact hpart b hb
    | cons hnext hrest =>
      rw [String.intercalate_cons_cons, List.intercalate_cons_cons, String.toList_append, String.toList_append,
        List.append_assoc, List.append_assoc, hpart _ (hdelimited _), hcomma, ih (by simp) b hb]
      simp only [List.append_assoc, List.cons_append, List.nil_append]

/-- What stands between two brackets, with white space around it. -/
theorem spells_between {opening closing : Char} {first last : Token} {lead trail body : String}
    {spelled : List Token} (hopening : ∀ b, readTokens (opening :: b) = first :: readTokens b)
    (hclosing : ∀ b, readTokens (closing :: b) = last :: readTokens b)
    (hlead : ∀ b, readTokens (lead.toList ++ b) = readTokens b)
    (htrail : ∀ b, readTokens (trail.toList ++ b) = readTokens b)
    (hdelimited : ∀ b, Delimited (trail.toList ++ closing :: b)) (hbody : Spells body spelled) :
    Spells (String.ofList [opening] ++ lead ++ body ++ trail ++ String.ofList [closing])
      (first :: (spelled ++ [last])) := by
  intro b _
  simp only [String.toList_append, String.toList_ofList, List.append_assoc, List.cons_append, List.nil_append]
  rw [hopening, hlead, hbody _ (hdelimited b), htrail, hclosing]

/-- Parts between brackets, in one line or in a line for each. -/
theorem spells_enclosed {indent : Option String} {level : Nat} {opening closing : Char} {first last : Token}
    {parts : List String} {spelled : List (List Token)} (hindent : IsBlank indent)
    (hopening : ∀ b, readTokens (opening :: b) = first :: readTokens b)
    (hclosing : ∀ b, readTokens (closing :: b) = last :: readTokens b)
    (hdelimited : ∀ b, Delimited (closing :: b)) (h : List.Forall₂ Spells parts spelled) :
    Spells (enclosed indent level (String.ofList [opening]) (String.ofList [closing]) parts)
      (first :: ([Token.comma].intercalate spelled ++ [last])) := by
  have hcomma := readTokens_bracket (c := ',') (by decide) (by decide) fun _ => rfl
  have hnothing (b : List Char) : readTokens ("".toList ++ b) = readTokens b := rfl
  cases parts with
  | nil =>
    cases h
    have hempty : Spells "" [] := fun b _ => rfl
    have hbetween := spells_between hopening hclosing hnothing hnothing hdelimited hempty
    simp only [String.append_empty] at hbetween
    exact hbetween
  | cons part parts =>
    cases indent with
    | none =>
      have hbody : Spells (", ".intercalate (part :: parts)) ([Token.comma].intercalate spelled) := by
        refine spells_intercalate (fun b => ?_) (fun b c hc => ?_) h (by simp)
        · show readTokens (',' :: ' ' :: b) = _
          rw [hcomma, readTokens_space (by decide)]
        · cases hc
          exact .inl rfl
      have hbetween := spells_between hopening hclosing hnothing hnothing hdelimited hbody
      simp only [String.append_empty] at hbetween
      exact hbetween
    | some unit =>
      have hline (level : Nat) := readTokens_newLine (hindent unit rfl) level
      have hbody : Spells (("," ++ newLine unit (level + 1)).intercalate (part :: parts))
          ([Token.comma].intercalate spelled) := by
        refine spells_intercalate (fun b => ?_) (fun b c hc => ?_) h (by simp)
        · rw [String.toList_append, List.append_assoc]
          show readTokens (',' :: ((newLine unit (level + 1)).toList ++ b)) = _
          rw [hcomma, hline]
        · rw [String.toList_append, List.append_assoc] at hc
          cases hc
          exact .inl rfl
      exact spells_between hopening hclosing (hline _) (hline _) (fun b => newLine_delimited unit level _) hbody

theorem keyName_of_keyText {key : Value} {name : String} (h : keyText key = .ok name) : keyName key = name := by
  cases key with
  | int n => exact (writtenInt_eq_ok.1 h).2
  | null | bool _ | float _ | str _ => exact Except.ok.inj h
  | _ => cases h

mutual

def valueTokens : Value → List Token
  | .null => [.null]
  | .bool b => [if b then .true else .false]
  | .int n => [.whole (n < 0) (decimalDigits n.natAbs)]
  | .float x => [.real x.asRead]
  | .str s => [.string s]
  | .list items | .tuple items => .openArray :: ([Token.comma].intercalate (elementTokens items) ++ [.closeArray])
  | .dict entries => .openObject :: ([Token.comma].intercalate (entryTokens entries) ++ [.closeObject])
  | _ => []

def elementTokens : List Value → List (List Token)
  | [] => []
  | v :: vs => valueTokens v :: elementTokens vs

def entryTokens : List (Value × Value) → List (List Token)
  | [] => []
  | (key, v) :: entries => (.string (keyName key) :: .colon :: valueTokens v) :: entryTokens entries

end

theorem elementTokens_eq_map (items : List Value) : elementTokens items = items.map valueTokens := by
  induction items with
  | nil => rfl
  | cons v vs ih => rw [elementTokens, ih, List.map_cons]

theorem entryTokens_eq_map (entries : Entries) :
    entryTokens entries =
      entries.map fun entry => .string (keyName entry.1) :: .colon :: valueTokens entry.2 := by
  induction entries with
  | nil => rfl
  | cons entry entries ih => rw [entryTokens, ih, List.map_cons]

def entryText (indent : Option String) (level : Nat) (entry : Value × Value) : Outcome String := do
  let name ← keyText entry.1
  let text ← write indent level entry.2
  return stringText name ++ ": " ++ text

theorem writeElements_eq_mapM (indent : Option String) (level : Nat) (items : List Value) :
    writeElements indent level items = items.mapM (write indent level) := by
  induction items with
  | nil => rfl
  | cons v vs ih => simp only [writeElements, List.mapM_cons, ih]

theorem writeEntries_eq_mapM (indent : Option String) (level : Nat) (entries : Entries) :
    writeEntries indent level entries = entries.mapM (entryText indent level) := by
  induction entries with
  | nil => rfl
  | cons entry entries ih =>
    obtain ⟨key, v⟩ := entry
    simp only [writeEntries, List.mapM_cons, ih, entryText, bind_assoc, pure_bind]

/-- The value is written somewhere in a text, at some level. -/
def IsWritten (v : Value) : Prop := ∃ indent level text, write indent level v = .ok text

theorem IsWritten.element {v x : Value} {items : List Value} (h : IsWritten v) (hv : v.elements? = some items)
    (hx : x ∈ items) : IsWritten x := by
  have hitems {indent : Option String} {level : Nat} {parts : List String}
      (hwrite : writeElements indent level items = .ok parts) : IsWritten x := by
    rw [writeElements_eq_mapM] at hwrite
    obtain ⟨part, -, hpart⟩ := mem_mapM_of_mem hwrite hx
    exact ⟨indent, level, part, hpart⟩
  obtain ⟨indent, level, text, hwrite⟩ := h
  cases v <;> cases hv
  · obtain ⟨parts, hparts, -⟩ := bind_eq_ok.1 hwrite
    exact hitems hparts
  · obtain ⟨parts, hparts, -⟩ := bind_eq_ok.1 hwrite
    exact hitems hparts

theorem IsWritten.entries {v : Value} {entries : Entries} (h : IsWritten v) (hv : v.entries? = some entries) :
    v = .dict entries ∧ ∀ entry ∈ entries, keyText entry.1 = .ok (keyName entry.1) ∧ IsWritten entry.2 := by
  obtain ⟨indent, level, text, hwrite⟩ := h
  cases v <;> cases hv
  · refine ⟨rfl, fun entry hentry => ?_⟩
    obtain ⟨parts, hparts, -⟩ := bind_eq_ok.1 hwrite
    rw [writeEntries_eq_mapM] at hparts
    obtain ⟨part, -, hpart⟩ := mem_mapM_of_mem hparts hentry
    obtain ⟨name, hname, hrest⟩ := bind_eq_ok.1 hpart
    obtain ⟨inner, hinner, -⟩ := bind_eq_ok.1 hrest
    refine ⟨?_, indent, level + 1, inner, hinner⟩
    rw [hname, keyName_of_keyText hname]
  · cases hwrite

def FloatReadsBack : Value → Prop
  | .float x => x.ReadsBack
  | _ => True

theorem spells_word {text : String} {word : List Char} {token : Token} (htext : text = String.ofList word)
    (hreturn : '\r' ∉ word) (htokens : tokens word = [token]) (htoken : token.IsPlain) :
    Spells text [token] := by
  subst htext
  refine spells_of_single ?_ ?_ htoken
  · rwa [String.toList_ofList]
  · rwa [String.toList_ofList]

theorem return_not_mem_decimalDigits (n : Nat) : '\r' ∉ decimalDigits n := by
  intro hmem
  have hdigit := isDigit_of_mem_decimalDigits hmem
  cases hdigit

theorem spells_int {n : Int} {text : String} (h : writtenInt n = .ok text) :
    Spells text [.whole (n < 0) (decimalDigits n.natAbs)] := by
  obtain ⟨-, rfl⟩ := writtenInt_eq_ok.1 h
  refine spells_word (intText_eq_ofList n) ?_ (tokens_decimalDigits _ _) trivial
  rw [List.mem_append, not_or]
  exact ⟨by split <;> decide, return_not_mem_decimalDigits _⟩

theorem spells_entry {indent : Option String} {level : Nat} {entry : Value × Value} {text : String}
    (h : entryText indent level entry = .ok text)
    (hv : ∀ text, write indent level entry.2 = .ok text → Spells text (valueTokens entry.2)) :
    Spells text (.string (keyName entry.1) :: .colon :: valueTokens entry.2) := by
  unfold entryText at h
  simp only [bind_eq_ok, pure_eq_ok, Except.ok.injEq] at h
  obtain ⟨name, hname, inner, hinner, rfl⟩ := h
  have hkey := keyName_of_keyText hname
  intro b hb
  rw [String.toList_append, String.toList_append, List.append_assoc, List.append_assoc, readTokens_stringText, hkey]
  show _ :: readTokens (':' :: ' ' :: (inner.toList ++ b)) = _
  have hcolon := readTokens_bracket (c := ':') (by decide) (by decide) fun _ => rfl
  rw [hcolon, readTokens_space (by decide), hv inner hinner b hb]
  rfl

theorem forall₂_spells {α : Type} {f : α → Outcome String} {g : α → List Token} {xs : List α}
    {parts : List String} (h : List.Forall₂ (fun x part => f x = .ok part) xs parts)
    (hspells : ∀ x ∈ xs, ∀ part, f x = .ok part → Spells part (g x)) : List.Forall₂ Spells parts (xs.map g) := by
  induction h with
  | nil => exact .nil
  | cons hpart _ ih =>
    rw [List.forall_mem_cons] at hspells
    exact .cons (hspells.1 _ hpart) (ih hspells.2)

theorem spells_array {indent : Option String} (hindent : IsBlank indent) {level : Nat} {items : List Value}
    {parts : List String} (hwrite : writeElements indent (level + 1) items = .ok parts)
    (h : ∀ x ∈ items, ∀ part, write indent (level + 1) x = .ok part → Spells part (valueTokens x)) :
    Spells (enclosed indent level "[" "]" parts)
      (.openArray :: ([Token.comma].intercalate (elementTokens items) ++ [.closeArray])) := by
  have hopening := readTokens_bracket (c := '[') (by decide) (by decide) fun _ => rfl
  have hclosing := readTokens_bracket (c := ']') (by decide) (by decide) fun _ => rfl
  have hdelimited (b : List Char) : Delimited (']' :: b) := fun c hc => by cases hc; exact .inr (.inl rfl)
  rw [writeElements_eq_mapM] at hwrite
  rw [elementTokens_eq_map]
  exact spells_enclosed hindent hopening hclosing hdelimited (forall₂_spells (forall₂_of_mapM hwrite) h)

theorem spells_object {indent : Option String} (hindent : IsBlank indent) {level : Nat} {entries : Entries}
    {parts : List String} (hwrite : writeEntries indent (level + 1) entries = .ok parts)
    (h : ∀ entry ∈ entries, ∀ part, write indent (level + 1) entry.2 = .ok part →
      Spells part (valueTokens entry.2)) :
    Spells (enclosed indent level "\x7b" "\x7d" parts)
      (.openObject :: ([Token.comma].intercalate (entryTokens entries) ++ [.closeObject])) := by
  have hopening := readTokens_bracket (c := '\x7b') (by decide) (by decide) fun _ => rfl
  have hclosing := readTokens_bracket (c := '\x7d') (by decide) (by decide) fun _ => rfl
  have hdelimited (b : List Char) : Delimited ('\x7d' :: b) := fun c hc => by cases hc; exact .inr (.inr (.inl rfl))
  rw [writeEntries_eq_mapM] at hwrite
  rw [entryTokens_eq_map]
  refine spells_enclosed hindent hopening hclosing hdelimited (forall₂_spells (forall₂_of_mapM hwrite) ?_)
  exact fun entry hentry part hpart => spells_entry hpart (h entry hentry)

/-- What is written is read as the tokens of the value. -/
theorem spells_write {indent : Option String} (hindent : IsBlank indent) {v : Value}
    (hv : v.Everywhere FloatReadsBack) {level : Nat} {text : String} (h : write indent level v = .ok text) :
    Spells text (valueTokens v) := by
  have hnull : "null" = String.ofList ['n', 'u', 'l', 'l'] := rfl
  have hfalse : "false" = String.ofList ['f', 'a', 'l', 's', 'e'] := rfl
  have htrue : "true" = String.ofList ['t', 'r', 'u', 'e'] := rfl
  induction v using Value.induction_on_parts generalizing level text with
  | step v ih =>
    have hpart {x : Value} (hx : x ∈ v.parts) {level : Nat} (part : String) (h : write indent level x = .ok part) :
        Spells part (valueTokens x) := ih x hx (hv.part hx) h
    cases v with
    | null => cases h; exact spells_word hnull (by decide) (by decide) trivial
    | bool b =>
      cases h
      cases b
      · exact spells_word hfalse (by decide) (by decide) trivial
      · exact spells_word htrue (by decide) (by decide) trivial
    | int n => exact spells_int h
    | float x =>
      cases h
      obtain ⟨hreturn, htokens⟩ := tokens_textIn hv.here
      exact spells_of_single hreturn htokens trivial
    | str s =>
      cases h
      exact fun b _ => readTokens_stringText s b
    | list items | tuple items =>
      obtain ⟨parts, hwrite, htext⟩ := bind_eq_ok.1 h
      cases htext
      exact spells_array hindent hwrite fun x hx => hpart hx
    | dict entries =>
      obtain ⟨parts, hwrite, htext⟩ := bind_eq_ok.1 h
      cases htext
      refine spells_object hindent hwrite fun entry hentry => ?_
      exact hpart (Value.mem_parts_of_entries (v := .dict entries) rfl hentry).2
    | _ => cases h

/-- A key that is no text is written as a text that is one token. -/
theorem eq_str_of_keyText {key : Value} {name : String} (h : keyText key = .ok name) (hkey : FloatReadsBack key)
    (hname : (tokens name.toList).head? = some .stray) : key = .str name := by
  cases key with
  | str s => cases h; rfl
  | null => cases h; exact absurd hname (by decide)
  | bool b => cases h; cases b <;> exact absurd hname (by decide)
  | int n =>
    obtain ⟨-, rfl⟩ := writtenInt_eq_ok.1 h
    rw [intText_eq_ofList, String.toList_ofList, tokens_decimalDigits] at hname
    cases hname
  | float x =>
    cases h
    rw [(tokens_textIn hkey).2] at hname
    cases hname
  | _ => cases h

/-- Why a value has no JSON text: a number in it is too long to be written, or it holds what such a text cannot. -/
def IsWriteFailure (e : DataShape.Failure) : Prop := e = .tooLongToWrite ∨ ∃ cause, e = .write cause

theorem isWriteFailure_of_writtenInt {n : Int} {e : DataShape.Failure} (h : writtenInt n = .error e) :
    IsWriteFailure e :=
  .inl (writtenInt_eq_error h)

theorem isWriteFailure_of_keyText {key : Value} {e : DataShape.Failure} (h : keyText key = .error e) :
    IsWriteFailure e := by
  cases key with
  | int n => exact isWriteFailure_of_writtenInt h
  | null | bool _ | float _ | str _ => cases h
  | _ =>
    cases h
    exact .inr ⟨_, rfl⟩

theorem isWriteFailure_of_write {indent : Option String} {level : Nat} {v : Value} {e : DataShape.Failure}
    (h : write indent level v = .error e) : IsWriteFailure e := by
  induction v using Value.induction_on_parts generalizing level with
  | step v ih =>
    cases v with
    | null | bool _ | float _ | str _ => cases h
    | int n => exact isWriteFailure_of_writtenInt h
    | list items | tuple items =>
      rcases bind_eq_error.1 h with h | ⟨parts, -, h⟩
      · rw [writeElements_eq_mapM] at h
        obtain ⟨x, hx, h⟩ := exists_of_mapM_eq_error h
        exact ih x hx h
      · cases h
    | dict entries =>
      rcases bind_eq_error.1 h with h | ⟨parts, -, h⟩
      · rw [writeEntries_eq_mapM] at h
        obtain ⟨entry, hentry, h⟩ := exists_of_mapM_eq_error h
        rcases bind_eq_error.1 h with h | ⟨name, -, h⟩
        · exact isWriteFailure_of_keyText h
        · rcases bind_eq_error.1 h with h | ⟨text, -, h⟩
          · exact ih _ (Value.mem_parts_of_entries (v := .dict entries) rfl hentry).2 h
          · cases h
      · cases h
    | _ =>
      cases h
      exact .inr ⟨_, rfl⟩

theorem isWriteFailure_of_text {indent v : Value} {e : DataShape.Failure} (h : text indent v = .error e) :
    IsWriteFailure e := by
  rcases bind_eq_error.1 h with h | ⟨unit, -, h⟩
  · cases indent with
    | null | bool _ | str _ => cases h
    | int n =>
      rw [indentUnit] at h
      split at h
      · cases h
      · cases h
        exact .inr ⟨_, rfl⟩
    | _ =>
      cases h
      exact .inr ⟨_, rfl⟩
  · exact isWriteFailure_of_write h

end DataShape.Json
