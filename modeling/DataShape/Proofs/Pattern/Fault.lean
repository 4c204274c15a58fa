import DataShape.Pattern.Search
import DataShape.Proofs.Outcome
import DataShape.Proofs.Text.OneLine

/-! Where the faults of patterns come from. What is said of a pattern holds a line end only if the pattern does, a
repeat count that cannot be used stands in braces, and flags that do not go together stand in parentheses. -/

namespace DataShape.Pattern

/-- The part of a reason that stands in its message as it stands in the pattern. -/
def Reason.spelled : Reason → List Char
  | .badEscape escape | .incompleteEscape escape | .octalOutOfRange escape => escape
  | .missingName what => what.toList
  | .unterminatedName terminator => [terminator]
  | .badRange first last => first ++ last
  | .unknownExtension text => text
  | .repeatInTemplate quantifier => quantifier.toList
  | _ => []

theorem Reason.isOneLine_message {reason : Reason} (h : '\n' ∉ reason.spelled) : IsOneLine reason.message := by
  have hname (name : List Char) : IsOneLine (shownName name) := isOneLine_quoted _
  cases reason with
  | badEscape escape | incompleteEscape escape | unknownExtension text =>
    exact .append (isOneLine_ofList.2 (by decide)) (isOneLine_ofList.2 h)
  | octalOutOfRange escape =>
    exact .append (.append (isOneLine_ofList.2 (by decide)) (isOneLine_ofList.2 h)) (isOneLine_ofList.2 (by decide))
  | unterminatedName terminator =>
    exact .append (.append (isOneLine_ofList.2 (by decide)) (isOneLine_ofList.2 h)) (isOneLine_ofList.2 (by decide))
  | badRange first last =>
    rw [spelled, List.mem_append, not_or] at h
    have hfirst : IsOneLine ("bad character range " ++ String.ofList first) :=
      .append (isOneLine_ofList.2 (by decide)) (isOneLine_ofList.2 h.1)
    exact (hfirst.append (isOneLine_ofList.2 (by decide))).append (isOneLine_ofList.2 h.2)
  | missingName what | repeatInTemplate quantifier =>
    rw [spelled] at h
    exact .append (isOneLine_ofList.2 (by decide)) h
  | unknownCharacterName name | badGroupName name | unknownGroupName name =>
    exact .append (isOneLine_ofList.2 (by decide)) (hname name)
  | repeatedGroupName name index earlier =>
    have hredefined : IsOneLine ("redefinition of group name " ++ shownName name) :=
      .append (isOneLine_ofList.2 (by decide)) (hname name)
    have hindex := (hredefined.append (isOneLine_ofList.2 (by decide : '\n' ∉ " as group ".toList))).append
      (isOneLine_natText index)
    exact (hindex.append (isOneLine_ofList.2 (by decide))).append (isOneLine_natText earlier)
  | invalidGroup index => exact .append (isOneLine_ofList.2 (by decide)) (isOneLine_natText index)
  | _ => exact isOneLine_ofList.2 (by decide)

/-- A line end in the text of a fault stands in the pattern as well. -/
theorem Error.isOneLine_message {pattern : String} {e : Error} (h : '\n' ∉ e.reason.spelled) :
    IsOneLine (e.message pattern) := by
  have hreason := Reason.isOneLine_message h
  unfold message
  split
  · exact hreason
  · next position _ =>
    dsimp only
    have hplace : IsOneLine (e.reason.message ++ " at position " ++ natText position) :=
      (hreason.append (isOneLine_ofList.2 (by decide))).append (isOneLine_natText position)
    split
    · refine .append (.append (.append (.append (hplace.append ?_) ?_) ?_) ?_) ?_
      · exact isOneLine_ofList.2 (by decide)
      · exact isOneLine_natText _
      · exact isOneLine_ofList.2 (by decide)
      · exact isOneLine_natText _
      · exact isOneLine_ofList.2 (by decide)
    · exact hplace

/-- What a fault takes from the characters of a pattern. -/
def Fault.ComesFrom (cs : List Char) : Fault → Prop
  | .malformed e => '\n' ∈ e.reason.spelled → '\n' ∈ cs
  | .repetitionTooLarge | .tooManyDigits _ => '\x7b' ∈ cs
  | .conflictingFlags => '(' ∈ cs

/-- A reading comes to a result as it is described, or to a fault that comes from the pattern. -/
def Reads {α : Type} (cs : List Char) (result : α → Prop) : Except Fault α → Prop
  | .ok a => result a
  | .error fault => fault.ComesFrom cs

def Within (cs : List Char) (ts : List Token) : Prop := ∀ t ∈ ts, t.char ∈ cs

variable {α β : Type} {cs : List Char} {P : α → Prop} {Q : β → Prop} {source : Source} {t : Token}
  {rest ts : List Token} {reason : Reason} {st : State}

theorem Reads.bind {x : Except Fault α} {f : α → Except Fault β} (hx : Reads cs P x)
    (hf : ∀ a, P a → Reads cs Q (f a)) : Reads cs Q (x >>= f) := by
  cases x with
  | ok a => exact hf a hx
  | error fault => exact hx

theorem Reads.map {x : Except Fault α} {f : α → β} (hx : Reads cs P x) (h : ∀ a, P a → Q (f a)) :
    Reads cs Q (f <$> x) := by
  cases x with
  | ok a => exact h a hx
  | error fault => exact hx

theorem Reads.ite {c : Prop} [Decidable c] {x y : Except Fault α} (hx : Reads cs P x) (hy : Reads cs P y) :
    Reads cs P (if c then x else y) := by
  split
  · exact hx
  · exact hy

theorem Reads.fault (h : '\n' ∈ reason.spelled → '\n' ∈ cs) (position : Nat) :
    Reads cs P (.error (source.fault rest reason position)) := by
  unfold Source.fault
  split
  · intro hmem
    cases hmem
  · exact h

theorem Reads.faultBack (h : '\n' ∈ reason.spelled → '\n' ∈ cs) (back : Nat) :
    Reads cs P (.error (source.faultBack rest reason back)) := .fault h _

theorem Within.cons : Within cs (t :: ts) ↔ t.char ∈ cs ∧ Within cs ts := List.forall_mem_cons

theorem Within.nil : Within cs [] := fun _ h => by cases h

theorem newline_mem_of_text (ht : t.char ∈ cs) (h : '\n' ∈ t.text) : '\n' ∈ cs := by
  unfold Token.text at h
  split at h
  · rw [List.mem_cons, List.mem_singleton] at h
    rcases h with h | h
    · cases h
    · rwa [h]
  · rw [List.mem_singleton] at h
    rwa [h]

theorem within_follow? {c : Char} (hts : Within cs ts) (h : follow? c ts = some rest) : Within cs rest := by
  unfold follow? at h
  split at h
  · split at h
    · cases h
      exact (Within.cons.1 hts).2
    · cases h
  · cases h

theorem within_dropWhile (hts : Within cs ts) (test : Token → Bool) : Within cs (ts.dropWhile test) :=
  fun t ht => hts t ((List.dropWhile_sublist test).subset ht)

theorem within_takeWhile (test : Char → Bool) (most : Nat) (hts : Within cs ts) :
    (∀ c ∈ (Source.takeWhile test most ts).1, c ∈ cs) ∧ Within cs (Source.takeWhile test most ts).2 := by
  induction most generalizing ts with
  | zero =>
    unfold Source.takeWhile
    exact ⟨fun c hc => absurd hc List.not_mem_nil, hts⟩
  | succ most ih =>
    cases ts with
    | nil => exact ⟨fun c hc => absurd hc List.not_mem_nil, hts⟩
    | cons t ts =>
      obtain ⟨ht, htail⟩ := Within.cons.1 hts
      obtain ⟨htaken, hleft⟩ := ih htail
      unfold Source.takeWhile
      split
      · exact ⟨List.forall_mem_cons.2 ⟨ht, htaken⟩, hleft⟩
      · exact ⟨fun c hc => absurd hc List.not_mem_nil, hts⟩

theorem reads_takeUntil {terminator : Char} (hterminator : '\n' ≠ terminator) {what : String} (hwhat : IsOneLine what)
    (before : List Char) (hts : Within cs ts) :
    Reads cs (fun found => Within cs found.2) (source.takeUntil terminator what before ts) := by
  have hmissing : '\n' ∈ (Reason.missingName what).spelled → '\n' ∈ cs := fun h => absurd h hwhat
  induction ts generalizing before with
  | nil =>
    unfold Source.takeUntil
    split
    · exact .faultBack hmissing 0
    · exact .faultBack (fun h => absurd (List.mem_singleton.1 h) hterminator) _
  | cons t ts ih =>
    obtain ⟨-, htail⟩ := Within.cons.1 hts
    unfold Source.takeUntil
    split
    · split
      · exact .faultBack hmissing 1
      · exact htail
    · exact ih _ htail

theorem reads_readCode (ht : t.char ∈ cs) (width : Nat) (hrest : Within cs rest) :
    Reads cs (fun found => Within cs found.2) (readCode source t width rest) := by
  obtain ⟨htaken, hleft⟩ := within_takeWhile isHex width hrest
  have hspelled : '\n' ∈ t.text ++ (Source.takeWhile isHex width rest).1 → '\n' ∈ cs := by
    intro h
    rcases List.mem_append.1 h with h | h
    · exact newline_mem_of_text ht h
    · exact htaken _ h
  unfold readCode
  dsimp only
  split
  · refine .fault ?_ _
    exact hspelled
  · split
    · refine .fault ?_ _
      exact hspelled
    · exact hleft

theorem reads_readNamed (hrest : Within cs rest) :
    Reads cs (fun found => Within cs found.2) (readNamed source t rest) := by
  unfold readNamed
  split
  · exact .faultBack (fun h => by cases h) 0
  · next hfollow =>
    refine (reads_takeUntil (by decide) (isOneLine_ofList.2 (by decide)) [] (within_follow? hrest hfollow)).bind ?_
    rintro ⟨name, left⟩ hleft
    dsimp only
    split
    · exact hleft
    · exact .fault (fun h => by cases h) _

theorem reads_readLiteralEscape (ht : t.char ∈ cs) (hrest : Within cs rest) :
    Reads cs (fun found => Within cs found.2) (readLiteralEscape source t rest) := by
  unfold readLiteralEscape
  split
  · refine .fault ?_ _
    exact newline_mem_of_text ht
  · exact hrest

theorem reads_readSetEscape (ht : t.char ∈ cs) (hrest : Within cs rest) :
    Reads cs (fun found => Within cs found.2) (readSetEscape source t rest) := by
  unfold readSetEscape
  dsimp only
  split
  · exact hrest
  · split
    · exact hrest
    · split
      · exact (reads_readCode ht _ hrest).bind fun _ h => h
      · split
        · exact (reads_readNamed hrest).bind fun _ h => h
        · split
          · obtain ⟨htaken, hleft⟩ := within_takeWhile isOctal 2 hrest
            split
            · refine .fault (fun h => ?_) _
              rcases List.mem_append.1 h with h | h
              · exact newline_mem_of_text ht h
              · exact htaken _ h
            · exact hleft
          · split
            · refine .fault ?_ _
              exact newline_mem_of_text ht
            · exact (reads_readLiteralEscape ht hrest).bind fun _ h => h

theorem spelled_of_lookBehindFault? {groups : Groups} {index : Nat}
    (h : groups.lookBehindFault? index = some reason) : reason.spelled = [] := by
  unfold Groups.lookBehindFault? at h
  split at h
  · cases h
  · split at h
    · cases h
      rfl
    · split at h
      · cases h
        rfl
      · cases h

theorem Reads.fault_of_nil (h : reason.spelled = []) (position : Nat) :
    Reads cs P (.error (source.fault rest reason position)) :=
  .fault (fun hmem => by rw [h] at hmem; cases hmem) position

theorem reads_readNumberEscape (groups : Groups) (ht : t.char ∈ cs) (hrest : Within cs rest) :
    Reads cs (fun found => Within cs found.2) (readNumberEscape source groups t rest) := by
  obtain ⟨hsecond, hrest⟩ := within_takeWhile Char.isDigit 1 hrest
  unfold readNumberEscape
  dsimp only
  generalize Source.takeWhile Char.isDigit 1 rest = found at hsecond hrest ⊢
  obtain ⟨second, rest⟩ := found
  obtain ⟨hthird, hrest⟩ : (∀ c ∈ (if isOctal t.char && !second.isEmpty && second.all isOctal then
      Source.takeWhile isOctal 1 rest else ([], rest)).1, c ∈ cs) ∧
      Within cs (if isOctal t.char && !second.isEmpty && second.all isOctal then
        Source.takeWhile isOctal 1 rest else ([], rest)).2 := by
    split
    · exact within_takeWhile isOctal 1 hrest
    · exact ⟨fun c hc => absurd hc List.not_mem_nil, hrest⟩
  generalize (if isOctal t.char && !second.isEmpty && second.all isOctal then
    Source.takeWhile isOctal 1 rest else ([], rest)) = found at hthird hrest ⊢
  obtain ⟨third, rest⟩ := found
  dsimp only at *
  split
  · split
    · refine .fault (fun h => ?_) _
      rcases List.mem_cons.1 h with h | h
      · cases h
      · rcases List.mem_append.1 h with h | h
        · rcases List.mem_cons.1 h with h | h
          · rwa [h]
          · exact hsecond _ h
        · exact hthird _ h
    · exact hrest
  · split
    · exact .fault_of_nil rfl _
    · split
      · exact .fault_of_nil rfl _
      · split
        · next reason hreason => exact .fault_of_nil (spelled_of_lookBehindFault? hreason) _
        · exact hrest

theorem reads_readEscape (groups : Groups) (ht : t.char ∈ cs) (hrest : Within cs rest) :
    Reads cs (fun found => Within cs found.2) (readEscape source groups t rest) := by
  unfold readEscape
  dsimp only
  split
  · exact hrest
  · split
    · exact hrest
    · split
      · exact hrest
      · split
        · exact (reads_readCode ht _ hrest).bind fun _ h => h
        · split
          · exact (reads_readNamed hrest).bind fun _ h => h
          · split
            · exact (within_takeWhile isOctal 2 hrest).2
            · split
              · exact reads_readNumberEscape groups ht hrest
              · exact (reads_readLiteralEscape ht hrest).bind fun _ h => h

theorem reads_readSetMember (ht : t.char ∈ cs) (hrest : Within cs rest) :
    Reads cs (fun found => Within cs found.2) (readSetMember source t rest) := by
  unfold readSetMember
  split
  · exact reads_readSetEscape ht hrest
  · exact hrest

theorem reads_rangeOf {first last : Token} (hfirst : first.char ∈ cs) (hlast : last.char ∈ cs) (least most : SetItem) :
    Reads cs (fun _ => True) (rangeOf source first last least most rest) := by
  have hspelled : '\n' ∈ first.text ++ last.text → '\n' ∈ cs := by
    intro h
    rcases List.mem_append.1 h with h | h
    · exact newline_mem_of_text hfirst h
    · exact newline_mem_of_text hlast h
  unfold rangeOf
  dsimp only
  split
  · split
    · refine .faultBack ?_ _
      exact hspelled
    · trivial
  · refine .faultBack ?_ _
    exact hspelled

theorem reads_readSetItems (start turns : Nat) (items : List SetItem) (hts : Within cs ts) :
    Reads cs (fun found => Within cs found.2) (readSetItems source start turns items ts) := by
  induction turns generalizing items ts with
  | zero => exact .fault_of_nil rfl _
  | succ turns ih =>
    cases ts with
    | nil => exact .fault_of_nil rfl _
    | cons t rest =>
      obtain ⟨ht, hrest⟩ := Within.cons.1 hts
      unfold readSetItems
      split
      · exact hrest
      · refine (reads_readSetMember ht hrest).bind ?_
        rintro ⟨item, left⟩ hleft
        dsimp only at hleft ⊢
        split
        · exact ih _ hleft
        · exact .fault_of_nil rfl _
        · next u after hfollow =>
          obtain ⟨hu, hafter⟩ := Within.cons.1 (within_follow? hleft hfollow)
          split
          · exact hafter
          · refine (reads_readSetMember hu hafter).bind ?_
            rintro ⟨last, behind⟩ hbehind
            exact (reads_rangeOf ht hu item last).bind fun range _ => ih _ hbehind

theorem reads_readSet (hrest : Within cs rest) :
    Reads cs (fun found => Within cs found.2) (readSet source t rest) := by
  unfold readSet
  split
  next negated inside hstart =>
  have hinside : Within cs inside := by
    split at hstart
    · next hfollow =>
      cases hstart
      exact within_follow? hrest hfollow
    · cases hstart
      exact hrest
  refine (reads_readSetItems t.start _ [] hinside).bind ?_
  rintro ⟨items, left⟩ hleft
  dsimp only
  split
  · exact hleft
  · exact hleft

theorem reads_need (h : reason.spelled = []) (hts : Within cs ts) :
    Reads cs (fun found => found.1.char ∈ cs ∧ Within cs found.2) (need source reason ts) := by
  cases ts with
  | nil => exact .fault_of_nil h _
  | cons t ts => exact Within.cons.1 hts

theorem reads_flagOf (h : reason.spelled = []) : Reads cs (fun _ => True) (flagOf source t rest reason) := by
  unfold flagOf
  split
  · trivial
  · dsimp only
    split
    · exact .fault_of_nil rfl _
    · exact .fault_of_nil h _

theorem reads_readFlagsOn (turns : Nat) (on : Flags) (hrest : Within cs rest) :
    Reads cs (fun found => Within cs found.2.2) (readFlagsOn source turns on t rest) := by
  induction turns generalizing on t rest with
  | zero => exact .fault_of_nil rfl _
  | succ turns ih =>
    unfold readFlagsOn
    refine (reads_flagOf rfl).bind fun flag _ => ?_
    dsimp only
    split
    · exact .fault_of_nil rfl _
    · split
      · exact .fault_of_nil rfl _
      · refine (reads_need rfl hrest).bind ?_
        rintro ⟨t, left⟩ ⟨-, hleft⟩
        dsimp only
        split
        · exact hleft
        · exact ih _ hleft

theorem reads_readFlagsOff (turns : Nat) (off : Flags) (h : reason.spelled = []) (hrest : Within cs rest) :
    Reads cs (fun found => Within cs found.2) (readFlagsOff source turns off t reason rest) := by
  induction turns generalizing off t reason rest with
  | zero => exact .fault_of_nil rfl _
  | succ turns ih =>
    unfold readFlagsOff
    refine (reads_flagOf h).bind fun flag _ => ?_
    dsimp only
    split
    · exact .fault_of_nil rfl _
    · refine (reads_need rfl hrest).bind ?_
      rintro ⟨t, left⟩ ⟨-, hleft⟩
      dsimp only
      split
      · exact hleft
      · exact ih _ rfl hleft

theorem reads_readFlags (hrest : Within cs rest) :
    Reads cs (fun found => Within cs found.2) (readFlags source t rest) := by
  unfold readFlags
  -- The two ways to go on meet twice; what they go on with is looked at before them.
  extract_lets next
  have hnext (found : Flags × Char × List Token) (h : Within cs found.2.2) :
      Reads cs (fun found => Within cs found.2) (next found) := by
    obtain ⟨on, closing, left⟩ := found
    dsimp -zeta only [next]
    split
    · exact h
    · extract_lets last turnOff
      have hlast (found : Flags × List Token) (h : Within cs found.2) :
          Reads cs (fun found => Within cs found.2) (last found) := by
        dsimp only [last]
        split
        · exact .fault_of_nil rfl _
        · split
          · exact .fault_of_nil rfl _
          · exact h
      split
      · exact .fault_of_nil rfl _
      · dsimp only [turnOff]
        split
        · refine (reads_need rfl h).bind ?_
          rintro ⟨t, after⟩ ⟨-, hafter⟩
          exact (reads_readFlagsOff _ _ rfl hafter).bind hlast
        · exact hlast (.empty, left) h
  split
  · exact hnext (.empty, '-', rest) hrest
  · exact (reads_readFlagsOn _ _ hrest).bind hnext

theorem reads_readGroupName {terminator : Char} (hterminator : '\n' ≠ terminator) (hrest : Within cs rest) :
    Reads cs (fun found => Within cs found.2) (readGroupName source terminator rest) := by
  unfold readGroupName
  refine (reads_takeUntil hterminator (isOneLine_ofList.2 (by decide)) [] hrest).bind ?_
  rintro ⟨name, left⟩ hleft
  dsimp only
  split
  · exact .fault_of_nil rfl _
  · exact hleft

theorem reads_readNamedReference (groups : Groups) (hrest : Within cs rest) :
    Reads cs (fun found => Within cs found.2) (readNamedReference source groups rest) := by
  unfold readNamedReference
  refine (reads_readGroupName (by decide) hrest).bind ?_
  rintro ⟨name, left⟩ hleft
  dsimp only
  split
  · exact .fault_of_nil rfl _
  · split
    · exact .fault_of_nil rfl _
    · split
      · next reason hreason => exact .fault_of_nil (spelled_of_lookBehindFault? hreason) _
      · exact hleft

theorem reads_readCondition (groups : Groups) (hrest : Within cs rest) :
    Reads cs (fun found => Within cs found.2) (readCondition source groups rest) := by
  unfold readCondition
  refine (reads_takeUntil (by decide) (isOneLine_ofList.2 (by decide)) [] hrest).bind ?_
  rintro ⟨name, left⟩ hleft
  dsimp -zeta only
  extract_lets fault next
  have hnext (found : Nat × Option Nat) : Reads cs (fun found => Within cs found.2) (next found) := by
    dsimp only [next]
    split
    · next reason hreason => exact .fault_of_nil (spelled_of_lookBehindFault? hreason) _
    · exact hleft
  split
  · split
    · exact hnext (_, _)
    · exact .fault_of_nil rfl _
  · split
    · exact .fault_of_nil rfl _
    · extract_lets found
      split
      · exact .fault_of_nil rfl _
      · exact hnext (_, _)
    · exact .fault_of_nil rfl _

theorem reads_readOpening (groups : Groups) (start : Nat) (hrest : Within cs rest) :
    Reads cs (fun found => Within cs found.2) (readOpening source groups start rest) := by
  have hextension {c : Char} {u : Token} {rest : List Token} (hc : '\n' ≠ c) (hu : u.char ∈ cs) (back : Nat) :
      Reads cs (fun found : Opening × List Token => Within cs found.2)
        (.error (source.faultBack rest (.unknownExtension (c :: u.text)) back)) := by
    refine .faultBack (fun h => ?_) _
    rcases List.mem_cons.1 h with h | h
    · exact absurd h hc
    · exact newline_mem_of_text hu h
  unfold readOpening
  split
  · exact hrest
  · next hquestion =>
    refine (reads_need rfl (within_follow? hrest hquestion)).bind ?_
    rintro ⟨t, left⟩ ⟨ht, hleft⟩
    dsimp only at hleft ⊢
    refine .ite ?_ (.ite hleft (.ite ?_ (.ite hleft (.ite hleft (.ite ?_ (.ite ?_ (.ite hleft (.ite ?_ ?_))))))))
    · split
      · next hfollow =>
        refine (reads_readGroupName (by decide) (within_follow? hleft hfollow)).bind ?_
        rintro ⟨name, behind⟩ hbehind
        exact hbehind
      · next hfollow => exact reads_readNamedReference groups (within_follow? hleft hfollow)
      · refine (reads_need rfl hleft).bind ?_
        rintro ⟨u, behind⟩ ⟨hu, -⟩
        exact hextension (by decide) hu _
    · split
      · exact .fault_of_nil rfl _
      · next hdrop =>
        have hbehind := within_dropWhile hleft (fun u => !u.is ')')
        rw [hdrop] at hbehind
        exact (Within.cons.1 hbehind).2
    · refine (reads_need rfl hleft).bind ?_
      rintro ⟨u, behind⟩ ⟨hu, hbehind⟩
      exact .ite hbehind (.ite hbehind (hextension (by decide) hu _))
    · exact reads_readCondition groups hleft
    · exact reads_readFlags hleft
    · refine .faultBack ?_ _
      exact newline_mem_of_text ht

end DataShape.Pattern
