import DataShape.Proofs.Validation.Arithmetic
import DataShape.Proofs.Validation.Cause
import DataShape.Proofs.Value.DescriptionLength
import DataShape.Proofs.Value.NumberText

/-! What messages show. A value of another kind is described within a bound that no value exceeds, and a number that
breaks a bound is never shown as the bound is. -/

namespace DataShape

theorem Cause.length_mistyped_le {expected shown : String} (hexpected : expected ∈ Schema.expectedNames)
    (hshown : shown.length ≤ 63 * 8 ^ 6 + 10) : (Cause.mistyped expected shown).message.length ≤ 63 * 8 ^ 6 + 48 := by
  have hlongest : ∀ expected ∈ Schema.expectedNames, expected.length ≤ 9 := by decide
  have hname := hlongest expected hexpected
  have hopening : "Invalid type, expected ".length = 23 := by decide
  have hgot : ", got ".length = 6 := by decide
  have hmessage : (mistyped expected shown).message = "Invalid type, expected " ++ expected ++ ", got " ++ shown := rfl
  rw [hmessage, String.length_append, String.length_append, String.length_append]
  omega

/-- Descriptions are bounded, whatever is described: the literal behind the type has no more than forty characters for
a whole number, and sixty for any other value that is no container. A level of containers has eight times the room of
the next, and there are six of them, so that a container has a bound as well. No message that refuses a value for its
type is longer than that allows, whatever the schema is and however large the value. -/
theorem descriptions_are_bounded :
    (∀ v : Value, v.WithinDigitLimit → v ≠ .null → v ≠ .undefined →
      ∃ text, v.description = .ok (v.typeName ++ " " ++ text) ∧ text.length ≤ v.shownLimit) ∧
    ∀ (schema v : Value) (path : String) (issues : List Issue), validate schema v path = .ok issues →
      ∀ issue ∈ issues, Opens "Invalid type" issue.message → issue.message.length ≤ 63 * 8 ^ 6 + 48 := by
  constructor
  · intro v hv hnull hundefined
    obtain ⟨text, htext⟩ := Value.shortLiteral_succeeds hv DescriptionLimits.standard.depth
    refine ⟨text, ?_, Value.writesUpTo_shownLimit hnull hundefined text htext⟩
    rw [Value.description_eq hnull hundefined, htext, ok_bind]
    rfl
  · intro schema v path issues hissues issue hissue hopens
    obtain ⟨_, _, t, w, cause, -, habout, hmessage⟩ := exists_isAbout_of_mem_validate hissues hissue
    rw [hmessage] at hopens ⊢
    obtain ⟨expected, shown, rfl⟩ := habout.eq_mistyped hopens
    exact Cause.length_mistyped_le habout.1 (w.writesUpTo_description shown habout.2)

/-- A list that is no truth value. -/
theorem list_in_place_of_boolean_is_described :
    (∃ text, (Value.list [.int 1]).description = .ok ("list" ++ " " ++ text) ∧ text.length ≤ 63 * 8 ^ 6 - 3) ∧
    validate (.ofFields [("type", .str "boolean")]) (.list [.int 1]) "" =
      .ok [⟨.invalidType, "Invalid type, expected boolean, got list [1]", ""⟩] ∧
    "Invalid type, expected boolean, got list [1]".length ≤ 63 * 8 ^ 6 + 48 := by
  have hissues : validate (.ofFields [("type", .str "boolean")]) (.list [.int 1]) "" =
      .ok [⟨.invalidType, "Invalid type, expected boolean, got list [1]", ""⟩] := by decide +kernel
  have hlimit : (Value.list [.int 1]).WithinDigitLimit := by
    simpa [Value.WithinDigitLimit, Value.IsWritableNumber] using withinDigitLimit_of_le (by decide)
  exact ⟨descriptions_are_bounded.1 (.list [.int 1]) hlimit (by simp) (by simp), hissues,
    descriptions_are_bounded.2 _ _ _ _ hissues _ (List.mem_singleton_self _) (by decide)⟩

/-- Between two texts without commas the comma of the message is the only one. -/
theorem eq_of_instead {a b t : String} (ha : ',' ∉ a.toList) (hb : ',' ∉ b.toList)
    (h : a ++ (", instead was " ++ b) = t ++ (", instead was " ++ t)) : a = b := by
  have hwords : ", instead was ".toList = ',' :: " instead was ".toList := by decide
  have hlist : a.toList ++ ',' :: (" instead was ".toList ++ b.toList) =
      t.toList ++ ',' :: (" instead was ".toList ++ t.toList) := by
    simpa only [String.toList_append, hwords, List.cons_append] using congrArg String.toList h
  have hother : " instead was ".toList.count ',' = 0 := by decide
  have ht : ',' ∉ t.toList := by
    have hcount := congrArg (List.count ',') hlist
    rw [← List.count_eq_zero] at ha hb ⊢
    simp only [List.count_append, List.count_cons_self, hother] at hcount
    omega
  have hfront : a.toList = t.toList := by
    have hsplit := congrArg (List.takeWhile (· ≠ ',')) hlist
    rwa [(span_ne ha _).1, (span_ne ht _).1] at hsplit
  rw [hfront, List.append_cancel_left_eq, List.cons.injEq, List.append_cancel_left_eq] at hlist
  exact String.toList_injective (hfront.trans hlist.2.symm)

theorem NumberRule.Broken.exists_ne {rule : NumberRule} (hrule : rule = .maximum ∨ rule = .minimum) {v limit : Value}
    (h : rule.Broken v limit) : ∃ x l, v.point? = some x ∧ limit.point? = some l ∧ l ≠ x := by
  obtain ⟨x, l, hx, hl, hexcludes⟩ := h
  refine ⟨x, l, hx, hl, ?_⟩
  rcases hrule with rfl | rfl
  · exact ne_of_lt hexcludes
  · exact ne_of_gt hexcludes

theorem Cause.IsAbout.limit_ne_shown {t : Schema} {w : Value} {cause : Cause} (habout : cause.IsAbout t w)
    (ht : ∀ x ∈ t.data, x.ReadsBackUnlessWhole) (hw : w.ReadsBackUnlessWhole) {rule : NumberRule}
    (hrule : rule = .maximum ∨ rule = .minimum) {limit shown : String}
    (hmessage : cause.message = rule.demand limit shown) : limit ≠ shown := by
  obtain ⟨rule', limit', shown', rfl⟩ := eq_numberBreaks hmessage
  have hbound : rule ≠ .multipleOf := by
    rcases hrule with rfl | rfl
    · decide
    · decide
  obtain ⟨rfl, htexts⟩ := NumberRule.demand_eq_demand hbound hmessage
  obtain ⟨options, rfl, hnumber, hoption, hholds, hlimit, hshown⟩ := habout
  obtain ⟨x, l, hx, hl, hne⟩ := ((NumberRule.holds_eq_false_iff hbound hnumber hoption).1 hholds).exists_ne hrule
  have hback : (options rule').ReadsBackUnlessWhole := ht _ (List.mem_map_of_mem rule'.mem_all)
  have hcommas := Value.comma_not_mem_numberText hl hback hlimit
  have hcomma := Value.comma_not_mem_numberText hx hw hshown
  rintro rfl
  exact Value.numberText_ne hl hx hne hback hw hlimit hshown (eq_of_instead hcommas hcomma htexts)

/-- Messages tell numbers apart. Two numbers of any kinds that differ as points of the line are shown as different
texts, and a whole number is shown in decimal whether it is an integer, a fraction or a float, so that a negative zero
loses its sign. In an issue about a maximum or a minimum the limit never reads like the number that breaks it. Of the
floats that are not whole it is assumed that their texts read back. -/
theorem numbers_are_told_apart :
    (∀ (v w : Value) (x y : Line), v.WithinDigitLimit → w.WithinDigitLimit → v.ReadsBackUnlessWhole →
      w.ReadsBackUnlessWhole → v.point? = some x → w.point? = some y → x ≠ y →
      ∃ s t, v.numberText = .ok s ∧ w.numberText = .ok t ∧ s ≠ t) ∧
    (∀ (v : Value) (n : ℤ), v.WithinDigitLimit → v.point? = some (.ofRat n) → v.numberText = .ok (intText n)) ∧
    (Value.float (.zero true)).numberText = .ok "0" ∧
    ∀ (schema v : Value) (path : String) (issues : List Issue), schema.Everywhere Value.ReadsBackUnlessWhole →
      v.Everywhere Value.ReadsBackUnlessWhole → validate schema v path = .ok issues → ∀ issue ∈ issues,
        ∀ (rule : NumberRule) (limit shown : String), rule = .maximum ∨ rule = .minimum →
          issue.message = rule.demand limit shown → limit ≠ shown := by
  refine ⟨?_, ?_, ?_, ?_⟩
  · intro v w x y hv hw hvback hwback hx hy hne
    obtain ⟨s, hs⟩ := Value.numberText_succeeds hv
    obtain ⟨t, ht⟩ := Value.numberText_succeeds hw
    exact ⟨s, t, hs, ht, Value.numberText_ne hx hy hne hvback hwback hs ht⟩
  · intro v n hv hn
    exact Value.numberText_of_whole hn hv
  · decide +kernel
  · intro schema v path issues hschema hv hissues issue hissue rule limit shown hrule hmessage
    obtain ⟨_, _, t, w, cause, hreaches, habout, hcause⟩ := exists_isAbout_of_mem_validate hissues hissue
    have hdata := (hreaches.everywhere (Schema.everywhere_data trivial hschema)).here
    exact habout.limit_ne_shown (fun x hx => (hdata x hx).here) (hreaches.everywhere_value hv).here hrule
      (hcause.symm.trans hmessage)

/-- The float that is written as a tenth is shown so, and the fraction as a fraction. A fifth is above it. -/
theorem tenth_told_from_fractions :
    (∃ s t, (Value.fraction (1 / 10)).numberText = .ok s ∧
      (Value.float (.finite false 1019 2702159776422298)).numberText = .ok t ∧ s ≠ t) ∧
    (Value.float (.finite false 1024 2251799813685248)).numberText = .ok (intText 3) ∧
    validate (NumberRule.maximum.schema (.float (.finite false 1019 2702159776422298))) (.fraction (1 / 5)) "" =
      .ok [⟨.invalidValue, NumberRule.maximum.demand "0.1" "1/5", ""⟩] ∧ "0.1" ≠ "1/5" := by
  have htenth : (Binary64.finite false 1019 2702159776422298).ReadsBack := by
    show Binary64.ofText? _ = _
    decide +kernel
  have hvalue : Binary64.exactValue false 1019 2702159776422298 ≠ 1 / 10 := by decide +kernel
  have hthree : (Binary64.finite false 1024 2251799813685248).point? = some (.ofRat (3 : ℤ)) := by
    have hthree : Binary64.exactValue false 1024 2251799813685248 = 3 := by decide +kernel
    simp [Binary64.point?, hthree]
  have hfound : validate (NumberRule.maximum.schema (.float (.finite false 1019 2702159776422298))) (.fraction (1 / 5))
      "" = .ok [⟨.invalidValue, NumberRule.maximum.demand "0.1" "1/5", ""⟩] := by decide +kernel
  have hfraction : (Value.fraction (1 / 10)).WithinDigitLimit := by
    apply Value.everywhere_fraction.2
    exact ⟨withinDigitLimit_of_le (by decide +kernel), withinDigitLimit_of_le (by decide +kernel)⟩
  obtain ⟨hapart, hwhole, -, hbounds⟩ := numbers_are_told_apart
  refine ⟨hapart _ _ _ _ hfraction (Value.everywhere_float.2 trivial) trivial (fun _ => htenth) rfl rfl ?_,
    hwhole _ 3 (Value.everywhere_float.2 trivial) hthree, hfound,
    hbounds _ _ _ _ ?_ (Value.everywhere_fraction.2 trivial) hfound _ (List.mem_singleton_self _) .maximum _ _
      (.inl rfl) rfl⟩
  · exact Line.ofRat_injective.ne hvalue.symm
  · simp [NumberRule.schema, Value.ofFields, Value.ReadsBackUnlessWhole, htenth]

end DataShape
