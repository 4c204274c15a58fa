import DataShape.Proofs.Pattern.Reading
import DataShape.Proofs.Schema.Reading
import DataShape.Proofs.Validation.Cause
import DataShape.Proofs.Validation.Stops
import DataShape.Proofs.Value.OneLine

/-! The report of all issues, line by line. An issue takes one line of it unless its message or its path has a line end
in it. Values are described in one line whatever they are; but the keys of a value, the names that a schema requires and
the patterns it gives are written as they are, and so are their line ends. -/

namespace DataShape

variable {schema v : Value} {issues : List Issue} {option : Value}

namespace Issue

theorem isOneLine_line {issue : Issue} : IsOneLine issue.line ↔ IsOneLine issue.message ∧ IsOneLine issue.path := by
  have hbefore : IsOneLine " (at " := isOneLine_ofList.2 (by decide)
  have hafter : IsOneLine ")" := isOneLine_ofList.2 (by decide)
  have hpath : IsOneLine (if issue.path = "" then "/" else issue.path) ↔ IsOneLine issue.path := by
    split
    · next hempty =>
      rw [hempty]
      exact iff_of_true (isOneLine_ofList.2 (by decide)) (isOneLine_ofList.2 (by decide))
    · exact Iff.rfl
  rw [line, isOneLine_append, isOneLine_append, isOneLine_append, hpath]
  exact ⟨fun h => ⟨h.1.1.1, h.1.2⟩, fun h => ⟨⟨⟨h.1, hbefore⟩, h.2⟩, hafter⟩⟩

theorem textLines_report (h : issues ≠ []) : textLines (report issues) = issues.flatMap (textLines ·.line) := by
  rw [report, textLines_intercalate (by simpa using h), List.flatMap_map]

theorem length_textLines_report (h : issues ≠ []) :
    (textLines (report issues)).length = issues.length + (issues.flatMap (·.line.toList)).count '\n' := by
  rw [textLines_report h]
  clear h
  induction issues with
  | nil => rfl
  | cons issue issues ih =>
    rw [List.flatMap_cons, List.flatMap_cons, List.length_append, List.count_append, List.length_cons,
      length_textLines, ih]
    omega

theorem textLines_report_eq_map_iff (h : issues ≠ []) :
    textLines (report issues) = issues.map line ↔ ∀ issue ∈ issues, IsOneLine issue.message ∧ IsOneLine issue.path := by
  constructor
  · intro hlines issue hissue
    have hlength := length_textLines_report h
    rw [hlines, List.length_map] at hlength
    have hnone : '\n' ∉ issues.flatMap (·.line.toList) := List.count_eq_zero.1 (by omega)
    exact isOneLine_line.1 fun hmem => hnone (List.mem_flatMap.2 ⟨issue, hissue, hmem⟩)
  · intro hall
    rw [textLines_report h, ← List.flatMap_singleton' (issues.map line), List.flatMap_map]
    exact List.flatMap_congr fun issue hissue => textLines_of_isOneLine (isOneLine_line.2 (hall issue hissue))

end Issue

/-- Every cause, if there is an answer, is said in one line. -/
def SaysOneLine (x : Outcome (List Cause)) : Prop :=
  ∀ causes, x = .ok causes → ∀ cause ∈ causes, IsOneLine cause.message

theorem NumberRule.isOneLine_key (rule : NumberRule) : IsOneLine rule.key := by
  cases rule <;> exact isOneLine_ofList.2 (by decide)

theorem TextRule.isOneLine_key (rule : TextRule) : IsOneLine rule.key := by
  cases rule <;> exact isOneLine_ofList.2 (by decide)

theorem isOneLine_badOption {name shown : String} (hname : IsOneLine name) (hshown : IsOneLine shown) :
    IsOneLine (Cause.badOption name shown).message := by
  refine .append (.append (.append ?_ hname) ?_) hshown
  · exact isOneLine_ofList.2 (by decide)
  · exact isOneLine_ofList.2 (by decide)

theorem NumberRule.isOneLine_demand (rule : NumberRule) {limit shown : String} (hlimit : IsOneLine limit)
    (hshown : IsOneLine shown) : IsOneLine (rule.demand limit shown) := by
  have hinstead : IsOneLine ", instead was " := isOneLine_ofList.2 (by decide)
  cases rule with
  | multipleOf => exact .append (isOneLine_ofList.2 (by decide)) hlimit
  | maximum | exclusiveMaximum | minimum | exclusiveMinimum =>
    refine .append (.append (.append ?_ hlimit) hinstead) hshown
    exact isOneLine_ofList.2 (by decide)

theorem NumberRule.saysOneLine_causes (rule : NumberRule) (hoption : option.Everywhere Value.HasOneLinePayload)
    {shown : String} (hshown : IsOneLine shown) : SaysOneLine (rule.causes option v shown) := by
  apply everyCause_causes
  · intro _ _ text htext
    exact isOneLine_badOption rule.isOneLine_key (Value.writesOneLine_literal hoption text htext)
  · intro hnumber _ limit hlimit
    exact rule.isOneLine_demand (Value.writesOneLine_numberText hnumber limit hlimit) hshown

theorem saysOneLine_numberCauses {options : NumberRule → Value}
    (hoptions : ∀ rule, (options rule).Everywhere Value.HasOneLinePayload) (hv : v.isNumber = true) :
    SaysOneLine (numberCauses options v) :=
  EveryCause.bind fun shown hshown => EveryCause.flatten fun rule _ =>
    rule.saysOneLine_causes (hoptions rule) (Value.writesOneLine_numberText hv shown hshown)

theorem saysOneLine_patternCauses (hoption : option.Everywhere Value.HasOneLinePayload)
    (hpattern : ∀ pattern, option = .str pattern → IsOneLine pattern) (s : String) :
    SaysOneLine (patternCauses option s) := by
  apply everyCause_patternCauses
  · intro _ _ shown hshown
    refine .append (.append ?_ (Value.writesOneLine_literal hoption shown hshown)) ?_
    · exact isOneLine_ofList.2 (by decide)
    · exact isOneLine_ofList.2 (by decide)
  · intro pattern e hoption hcompile
    have hone := hpattern pattern hoption
    have hfrom := Pattern.comesFrom_of_compile hcompile
    refine .append (.append (.append ?_ (isOneLine_quoted pattern)) ?_) ?_
    · exact isOneLine_ofList.2 (by decide)
    · exact isOneLine_ofList.2 (by decide)
    · exact Pattern.Error.isOneLine_message fun hmem => hone (hfrom hmem)
  · intro pattern hoption
    exact .append (isOneLine_ofList.2 (by decide)) (hpattern pattern hoption)

theorem TextRule.saysOneLine_causes (rule : TextRule) (hoption : option.Everywhere Value.HasOneLinePayload)
    (hpattern : ∀ pattern, rule = .pattern → option = .str pattern → IsOneLine pattern) (s : String) :
    SaysOneLine (rule.causes option s) := by
  apply everyCause_causes
  · intro _ _ _ shown hshown
    exact isOneLine_badOption rule.isOneLine_key (Value.writesOneLine_literal hoption shown hshown)
  · intro hnumber limit hlimit
    have hinstead : IsOneLine ", instead was " := isOneLine_ofList.2 (by decide)
    have hline := Value.writesOneLine_numberText hnumber limit hlimit
    constructor
    · refine .append (.append (.append ?_ hline) hinstead) (isOneLine_natText _)
      exact isOneLine_ofList.2 (by decide)
    · refine .append (.append (.append ?_ hline) hinstead) (isOneLine_natText _)
      exact isOneLine_ofList.2 (by decide)
  · intro hrule
    exact saysOneLine_patternCauses hoption (fun pattern => hpattern pattern hrule) s

theorem saysOneLine_textCauses {options : TextRule → Value}
    (hoptions : ∀ rule, (options rule).Everywhere Value.HasOneLinePayload)
    (hpattern : ∀ pattern, options .pattern = .str pattern → IsOneLine pattern) (s : String) :
    SaysOneLine (textCauses options s) :=
  EveryCause.flatten fun rule _ =>
    rule.saysOneLine_causes (hoptions rule) (fun pattern hrule => hrule ▸ hpattern pattern) s

/-- No key that is a text has a line end in it. -/
def Value.HasOneLineKeys (v : Value) : Prop :=
  ∀ entries, v.entries? = some entries → ∀ name, .str name ∈ entries.keys → IsOneLine name

namespace Schema

/-- The pattern and the required names have no line end in them. -/
def HasOneLineTexts : Schema → Prop
  | .string options => ∀ pattern, options .pattern = .str pattern → IsOneLine pattern
  | .object _ required => ∀ names, requiredNames? required = some names → ∀ name ∈ names, IsOneLine name
  | _ => True

theorem saysOneLine_keyCauses {properties : List (Property Schema)} {required : List String} {entries : Entries}
    (hkeys : ∀ key ∈ entries.keys, WritesOneLine key.plain) (hrequired : ∀ name ∈ required, IsOneLine name) :
    SaysOneLine (keyCauses properties required entries) := by
  have hcomma : IsOneLine ", " := isOneLine_ofList.2 (by decide)
  apply everyCause_keyCauses
  · intro unexpected hunexpected
    refine .append (isOneLine_ofList.2 (by decide)) (isOneLine_intercalate hcomma fun name hname => ?_)
    obtain ⟨key, hkey, hplain⟩ := exists_of_mem_mapM hunexpected hname
    exact hkeys key (List.mem_filter.1 hkey).1 name hplain
  · refine .append (isOneLine_ofList.2 (by decide)) (isOneLine_intercalate hcomma fun name hname => ?_)
    exact hrequired name (List.mem_filter.1 hname).1

theorem writesOneLine_key {entries : Entries} (hv : v.Everywhere Value.HasOneLinePayload) (hkeys : v.HasOneLineKeys)
    (hentries : v.entries? = some entries) {key : Value} (hkey : key ∈ entries.keys) : WritesOneLine key.plain := by
  obtain ⟨entry, hentry, rfl⟩ := List.mem_map.1 hkey
  refine Value.writesOneLine_plain (hv.entry hentries hentry).1 fun name hname => ?_
  exact hkeys entries hentries name (hname ▸ hkey)

theorem saysOneLine_ownCauses {s : Schema} (hdata : ∀ x ∈ s.data, x.Everywhere Value.HasOneLinePayload)
    (hs : s.HasOneLineTexts) (hv : v.Everywhere Value.HasOneLinePayload) (hkeys : v.HasOneLineKeys) :
    SaysOneLine (s.ownCauses v) := by
  apply everyCause_ownCauses
  · intro _ _
    exact isOneLine_ofList.2 (by decide)
  · intro expected hexpected shown hshown
    have hnames : ∀ expected ∈ expectedNames, IsOneLine expected := by decide
    have hline := Value.writesOneLine_description hv shown hshown
    refine .append (.append (.append ?_ (hnames expected hexpected)) ?_) hline
    · exact isOneLine_ofList.2 (by decide)
    · exact isOneLine_ofList.2 (by decide)
  · rintro options rfl hnumber
    exact saysOneLine_numberCauses (fun rule => hdata _ (List.mem_map_of_mem rule.mem_all)) hnumber
  · rintro options text rfl _
    exact saysOneLine_textCauses (fun rule => hdata _ (List.mem_map_of_mem rule.mem_all)) hs text
  · intro expected actual
    refine .append (.append (.append (.append ?_ (isOneLine_natText _)) ?_) (isOneLine_natText _)) ?_
    · exact isOneLine_ofList.2 (by decide)
    · exact isOneLine_ofList.2 (by decide)
    · exact isOneLine_ofList.2 (by decide)
  · rintro properties required rfl _ shown hshown
    refine .append ?_ (Value.writesOneLine_literal (hdata _ List.mem_cons_self) shown hshown)
    exact isOneLine_ofList.2 (by decide)
  · rintro properties required entries names rfl hentries hnames
    exact saysOneLine_keyCauses (fun key hkey => writesOneLine_key hv hkeys hentries hkey) (hs names hnames)

/-- The step to a part is one line, as the key is that it may be. -/
theorem writesOneLine_step {s : Schema} (hv : v.Everywhere Value.HasOneLinePayload) (hkeys : v.HasOneLineKeys)
    {part : Part} (hpart : part ∈ s.parts v) : WritesOneLine part.step.text := by
  obtain ⟨_, _, i, _, -, -, -, rfl⟩ | ⟨_, _, i, _, _, -, -, -, -, -, rfl⟩ |
    ⟨_, entries, entry, -, hentries, hentry, rfl⟩ | ⟨_, _, entries, entry, _, -, hentries, -, hentry, -, rfl⟩ :=
      mem_parts hpart
  · exact .ok (isOneLine_natText i)
  · exact .ok (isOneLine_natText i)
  · exact writesOneLine_key hv hkeys hentries (List.mem_map_of_mem hentry)
  · exact writesOneLine_key hv hkeys hentries (List.mem_map_of_mem hentry)

theorem isOneLine_of_mem_issues {s : Schema}
    (hdata : s.Everywhere fun t => ∀ x ∈ t.data, x.Everywhere Value.HasOneLinePayload)
    (hs : s.Everywhere HasOneLineTexts) (hv : v.Everywhere Value.HasOneLinePayload)
    (hkeys : v.Everywhere Value.HasOneLineKeys) (h : s.issues v = .ok issues) {issue : Issue}
    (hissue : issue ∈ issues) : IsOneLine issue.message ∧ IsOneLine issue.path := by
  induction s, v using induction_on_parts generalizing issues issue with
  | step s v ih =>
    rw [issues_eq] at h
    obtain ⟨own, hown, h⟩ := bind_eq_ok.1 h
    obtain ⟨below, hbelow, h⟩ := bind_eq_ok.1 h
    cases h
    rcases List.mem_append.1 hissue with hissue | hissue
    · obtain ⟨cause, hcause, rfl⟩ := List.mem_map.1 hissue
      exact ⟨saysOneLine_ownCauses hdata.here hs.here hv hkeys.here own hown cause hcause,
        isOneLine_ofList.2 List.not_mem_nil⟩
    · obtain ⟨part, hpart, step, inner, hstep, hinner, found, hfound, rfl⟩ :=
        exists_part_of_mem_partIssues hbelow hissue
      have hchild := mem_children_of_mem_parts hpart
      have hvalue := value_mem_parts hpart
      have hone := ih part hpart (hdata.child hchild) (hs.child hchild) (hv.part hvalue) (hkeys.part hvalue) hinner
        hfound
      have htext := writesOneLine_step hv hkeys.here hpart step hstep
      have hslash : IsOneLine "/" := isOneLine_ofList.2 (by decide)
      exact ⟨hone.1, (hslash.append htext).append hone.2⟩

end Schema

/-- The report of a refused value has one line for each issue, and one more for each line end in a message or a path. It
is one line for each issue, in their order, just if no message and no path has a line end in it; and so it is unless a
pattern, a required name or a key that is a text has one. -/
theorem report_line_by_line (h : requireValid schema v = .error (.invalid issues)) :
    validate schema v "" = .ok issues ∧
    (textLines (Failure.invalid issues).message).length =
      issues.length + (issues.flatMap (·.line.toList)).count '\n' ∧
    (textLines (Failure.invalid issues).message = issues.map Issue.line ↔
      ∀ issue ∈ issues, IsOneLine issue.message ∧ IsOneLine issue.path) ∧
    (schema.Everywhere Value.HasOneLinePayload → v.Everywhere Value.HasOneLinePayload →
      (Schema.ofValue schema).Everywhere Schema.HasOneLineTexts → v.Everywhere Value.HasOneLineKeys →
        textLines (Failure.invalid issues).message = issues.map Issue.line) := by
  obtain ⟨hvalidate, hne⟩ := requireValid_eq_invalid_iff.1 h
  have hlines := Issue.textLines_report_eq_map_iff hne
  refine ⟨hvalidate, Issue.length_textLines_report hne, hlines, fun hschema hv htexts hkeys => ?_⟩
  refine hlines.2 fun issue hissue => ?_
  rw [validate_root] at hvalidate
  exact Schema.isOneLine_of_mem_issues (Schema.everywhere_data trivial hschema) htexts hv hkeys hvalidate hissue

/-- An object with a name, which is required, and a size. -/
def namedSize : Value := .ofFields [("type", .str "object"),
  ("properties", .ofFields [("size", .ofFields [("type", .str "number")])]), ("required", .list [.str "name"])]

/-- What is wrong where the name is missing and the size is a line end, which is described in one line. -/
def issuesOfSize : List Issue := [⟨.invalidType, "Missing required keys: name", ""⟩,
  ⟨.invalidType, "Invalid type, expected number, got str \x27\\n\x27", "/size"⟩]

theorem report_of_sizes_line_by_line :
    requireValid namedSize (.dict [(.str "size", .str "\n")]) = .error (.invalid issuesOfSize) ∧
    textLines (Failure.invalid issuesOfSize).message =
      ["Missing required keys: name (at /)", "Invalid type, expected number, got str \x27\\n\x27 (at /size)"] := by
  have hrefused : requireValid namedSize (.dict [(.str "size", .str "\n")]) = .error (.invalid issuesOfSize) := by
    decide +kernel
  refine ⟨hrefused, (report_line_by_line hrefused).2.2.2 ?_ ?_ ?_ ?_⟩
  · simp [namedSize, Value.HasOneLinePayload, Value.ofFields]
  · simp [Value.HasOneLinePayload]
  · refine .intro ?_ fun child hchild => ?_
    · rintro _ ⟨rfl⟩ name hname
      obtain rfl := List.mem_singleton.1 hname
      exact isOneLine_ofList.2 (by decide)
    · obtain rfl := List.mem_singleton.1 hchild
      exact .intro trivial fun _ h => absurd h List.not_mem_nil
  · have hsize : IsOneLine "size" := isOneLine_ofList.2 (by decide)
    simpa [Value.HasOneLineKeys, Value.entries?, Entries.keys] using hsize

/-- A key with a line end in it, for which nothing is declared: one issue, and two lines. -/
theorem key_with_line_end_takes_two_lines :
    requireValid (.ofFields [("type", .str "object"), ("properties", .dict [])]) (.dict [(.str "a\nb", .int 1)]) =
      .error (.invalid [⟨.invalidType, "Unexpected keys: a\nb", ""⟩]) ∧
    textLines (Failure.invalid [⟨.invalidType, "Unexpected keys: a\nb", ""⟩]).message =
      ["Unexpected keys: a", "b (at /)"] :=
  ⟨rfl, by decide⟩

end DataShape
