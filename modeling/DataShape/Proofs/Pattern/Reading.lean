import DataShape.Proofs.Pattern.Fault

/-! The faults of a whole pattern. What one token leads to, with the groups that are open around it, is a step; the
faults of the pattern are those of its steps, and those that are noticed when all of it has been read. -/

namespace DataShape.Pattern

def State.FlagsFrom (cs : List Char) (st : State) : Prop := st.flags.ascii = true → '(' ∈ cs

variable {cs : List Char} {source : Source} {t : Token} {rest : List Token} {st : State}

theorem reads_capture (name : Option (List Char)) (start : Nat) (hst : st.FlagsFrom cs) :
    Reads cs (State.FlagsFrom cs) (st.capture source name start rest) := by
  unfold State.capture
  cases name with
  | none => exact hst
  | some name =>
    dsimp only
    split
    · exact .fault_of_nil rfl _
    · exact hst

theorem reads_openGroup (start : Nat) (hopen : '(' ∈ cs) (hrest : Within cs rest) :
    Reads cs (fun found => found.1.FlagsFrom cs ∧ Within cs found.2) (st.openGroup source start rest) := by
  unfold State.openGroup
  refine (reads_readOpening st.groups start hrest).bind ?_
  rintro ⟨opening, left⟩ hleft
  cases opening with
  | capture name => exact (reads_capture name start fun _ => hopen).bind fun st' hst' => ⟨hst', hleft⟩
  | flags on =>
    dsimp only
    split
    · exact .fault_of_nil rfl _
    · exact ⟨fun _ => hopen, hleft⟩
  | plain | atomic | look | condition | backreference | comment => exact ⟨fun _ => hopen, hleft⟩

theorem reads_bar (hst : st.FlagsFrom cs) : Reads cs (State.FlagsFrom cs) (st.bar source t rest) := by
  unfold State.bar
  split
  · exact hst
  · split
    · exact hst
    · exact .fault_of_nil rfl _
    · exact hst

theorem flagsFrom_close {frame : Frame} {frames : List Frame} (hst : st.FlagsFrom cs) :
    (st.close frame frames).FlagsFrom cs := by
  unfold State.close
  dsimp only
  split <;> exact hst

theorem reads_repeatCount (digits : List Char) (hbrace : '\x7b' ∈ cs) :
    Reads cs (fun _ => True) (repeatCount source digits rest) := by
  unfold repeatCount
  extract_lets tooMany n
  have hfault : Reads cs (fun _ : Nat => True) (.error tooMany) := by
    dsimp only [tooMany]
    split
    · exact .fault_of_nil rfl _
    · split
      · exact hbrace
      · exact hbrace
  exact .ite hfault (.ite hfault trivial)

theorem reads_readBounds (ht : t.is '?' = true ∨ t.is '*' = true ∨ t.is '+' = true ∨ '\x7b' ∈ cs)
    (hrest : Within cs rest) :
    Reads cs (fun found => ∀ bounds, found = some bounds → Within cs bounds.2.2) (readBounds source t rest) := by
  have hfound (least : Nat) (most : Option Nat) {after : List Token} (h : Within cs after) :
      ∀ bounds, some (least, most, after) = some bounds → Within cs bounds.2.2 := by
    rintro _ ⟨rfl⟩
    exact h
  unfold readBounds
  by_cases hquestion : t.is '?' = true
  · rw [if_pos hquestion]
    exact hfound _ _ hrest
  · by_cases hstar : t.is '*' = true
    · rw [if_neg hquestion, if_pos hstar]
      exact hfound _ _ hrest
    · by_cases hplus : t.is '+' = true
      · rw [if_neg hquestion, if_neg hstar, if_pos hplus]
        exact hfound _ _ hrest
      · have hbrace := ((ht.resolve_left hquestion).resolve_left hstar).resolve_left hplus
        rw [if_neg hquestion, if_neg hstar, if_neg hplus]
        refine .ite (fun _ h => by cases h) ?_
        split
        next low left hlow =>
        have hleft := (within_takeWhile Char.isDigit rest.length hrest).2
        rw [hlow] at hleft
        split
        next high behind hhigh =>
        have hbehind : Within cs behind := by
          split at hhigh
          · next after hfollow =>
            have hdigits := (within_takeWhile Char.isDigit after.length (within_follow? hleft hfollow)).2
            rwa [hhigh] at hdigits
          · cases hhigh
            exact hleft
        split
        · dsimp only
          exact .ite (.fault_of_nil rfl _) fun _ h => by cases h
        · next after hfollow =>
          have hafter := within_follow? hbehind hfollow
          extract_lets withLeast
          have hleast (least : Nat) : Reads cs (fun found => ∀ bounds, found = some bounds → Within cs bounds.2.2)
              (withLeast least) := by
            dsimp -zeta only [withLeast]
            extract_lets withMost
            have hmost (most : Option Nat) : Reads cs (fun found => ∀ bounds, found = some bounds →
                Within cs bounds.2.2) (withMost most) := by
              dsimp only [withMost]
              exact .ite (.fault_of_nil rfl _) (hfound least most hafter)
            refine .ite (hmost none) ?_
            exact (Reads.map (Q := fun _ => True) (reads_repeatCount high hbrace) fun _ h => h).bind
              fun most _ => hmost most
          exact .ite (hleast 0) ((reads_repeatCount low hbrace).bind fun least _ => hleast least)

theorem reads_readRepeat (ht : t.is '?' = true ∨ t.is '*' = true ∨ t.is '+' = true ∨ '\x7b' ∈ cs)
    (hrest : Within cs rest) (hst : st.FlagsFrom cs) :
    Reads cs (fun found => found.1.FlagsFrom cs ∧ Within cs found.2) (readRepeat source st t rest) := by
  unfold readRepeat
  refine (reads_readBounds ht hrest).bind fun bounds hbounds => ?_
  split
  · exact ⟨hst, hrest⟩
  · next least most after =>
    have hafter : Within cs after := hbounds _ rfl
    split
    · exact .fault_of_nil rfl _
    · dsimp only
      refine .ite (.fault_of_nil rfl _) (.ite (.fault_of_nil rfl _) ?_)
      split
      · next hfollow => exact ⟨hst, within_follow? hafter hfollow⟩
      · next hfollow => exact ⟨hst, within_follow? hafter hfollow⟩
      · exact ⟨hst, hafter⟩

theorem is_of_char {c : Char} (hescaped : ¬ t.escaped = true) (hc : t.char = c) : t.is c = true := by
  simp [Token.is, hescaped, hc]

/-- One step of the reading, at a token that is no bar and closes no parenthesis. -/
theorem reads_readItem (ht : t.char ∈ cs) (hrest : Within cs rest) (hst : st.FlagsFrom cs) :
    Reads cs (fun found => found.1.FlagsFrom cs ∧ Within cs found.2) (readItem source st t rest) := by
  unfold readItem
  dsimp only
  refine .ite (.fault_of_nil rfl _) ?_
  by_cases hescaped : t.escaped = true
  · rw [if_pos hescaped]
    refine (reads_readEscape st.groups ht hrest).bind ?_
    rintro ⟨item, left⟩ hleft
    exact ⟨hst, hleft⟩
  · rw [if_neg hescaped]
    refine .ite ⟨hst, hrest⟩ (.ite ⟨hst, fun u hu => within_dropWhile hrest _ u (List.mem_of_mem_drop hu)⟩ ?_)
    split
    · refine (reads_readSet hrest).bind ?_
      rintro ⟨item, left⟩ hleft
      exact ⟨hst, hleft⟩
    · next hc => exact reads_readRepeat (.inl (is_of_char hescaped hc)) hrest hst
    · next hc => exact reads_readRepeat (.inr (.inl (is_of_char hescaped hc))) hrest hst
    · next hc => exact reads_readRepeat (.inr (.inr (.inl (is_of_char hescaped hc)))) hrest hst
    · next hc => exact reads_readRepeat (.inr (.inr (.inr (hc ▸ ht)))) hrest hst
    · exact ⟨hst, hrest⟩
    · exact ⟨hst, hrest⟩
    · exact ⟨hst, hrest⟩
    · next hc => exact reads_openGroup _ (hc ▸ ht) hrest
    · exact ⟨hst, hrest⟩

/-- The whole reading, by induction on its turns: what a step leaves behind comes from the pattern again. -/
theorem reads_readAll (turns : Nat) {ts : List Token} (hts : Within cs ts) (hst : st.FlagsFrom cs) :
    Reads cs (fun found => found.1.FlagsFrom cs) (readAll source turns st ts) := by
  induction turns generalizing st ts with
  | zero => exact hst
  | succ turns ih =>
    cases ts with
    | nil =>
      unfold readAll
      split
      · exact hst
      · exact .fault_of_nil rfl _
    | cons t rest =>
      obtain ⟨ht, hrest⟩ := Within.cons.1 hts
      unfold readAll
      refine .ite ?_ ?_
      · split
        · exact hst
        · exact .ite (.fault_of_nil rfl _) (ih hrest (flagsFrom_close hst))
      · extract_lets next
        have hnext (found : State × List Token) (h : found.1.FlagsFrom cs ∧ Within cs found.2) :
            Reads cs (fun found => found.1.FlagsFrom cs) (next found) := by
          dsimp only [next]
          exact .ite (.fault_of_nil rfl _) (ih h.2 h.1)
        refine .ite ?_ ((reads_readItem ht hrest hst).bind hnext)
        exact ((reads_bar hst).map fun _ hst' => ⟨hst', hrest⟩).bind hnext

theorem within_tokensFrom (start : Nat) {part : List Char} (h : ∀ c ∈ part, c ∈ cs) :
    Within cs (tokensFrom start part).1 := by
  fun_induction tokensFrom start part with
  | case1 => exact .nil
  | case2 => exact .nil
  | case3 start c rest ts dangling hrest ih =>
    rw [List.forall_mem_cons, List.forall_mem_cons] at h
    rw [hrest] at ih
    exact Within.cons.2 ⟨h.2.1, ih h.2.2⟩
  | case4 start c rest hnil hbackslash ts dangling hrest ih =>
    rw [List.forall_mem_cons] at h
    rw [hrest] at ih
    exact Within.cons.2 ⟨h.1, ih h.2⟩

theorem newline_not_mem_of_unusable? {groups : List (Nat × Width)} {template : Bool} {node : Node} {reason : Reason}
    (h : node.unusable? groups template = some reason) : '\n' ∉ reason.spelled := by
  induction node with
  | sequence a b iha ihb | either a b iha ihb | conditional _ a b iha ihb =>
    unfold Node.unusable? at h
    split at h
    · next found hfound =>
      cases h
      exact iha hfound
    · exact ihb h
  | group _ body ih | flagged _ _ body ih | atomic body ih => exact ih h
  | repeated mode _ _ body ih =>
    unfold Node.unusable? at h
    split at h
    · cases h
      cases mode <;> exact isOneLine_ofList.1 (isOneLine_ofList.2 (by decide))
    · exact ih h
  | look behind _ body ih =>
    unfold Node.unusable? at h
    dsimp only at h
    split at h
    · cases h
      exact List.not_mem_nil
    · split at h
      · cases h
        exact List.not_mem_nil
      · exact ih h
  | _ => cases h

/-- A pattern that cannot be used has a fault that comes from its own characters. -/
theorem comesFrom_of_compile {pattern : String} {fault : Fault} (h : compile pattern = .error fault) :
    fault.ComesFrom pattern.toList := by
  have hreads : Reads pattern.toList (fun _ => True) (compile pattern) := by
    unfold compile
    extract_lets cs
    split
    next tokens dangling htokens =>
    have hwithin : Within pattern.toList tokens := by
      have hall : Within pattern.toList (tokensFrom 0 cs).1 := within_tokensFrom 0 fun c hc => hc
      rwa [htokens] at hall
    dsimp only
    refine .ite (.fault_of_nil rfl _) ?_
    refine (reads_readAll _ hwithin fun h => by cases h).bind ?_
    rintro ⟨st, unbalanced⟩ hst
    dsimp only at hst ⊢
    split
    · next hflags =>
      rw [Bool.and_eq_true] at hflags
      exact hst hflags.1
    · split
      · intro hmem
        cases hmem
      · split
        · intro hmem
          cases hmem
        · split
          · next reason hreason =>
            intro hmem
            exact absurd hmem (newline_not_mem_of_unusable? hreason)
          · trivial
  rw [h] at hreads
  exact hreads

end DataShape.Pattern
