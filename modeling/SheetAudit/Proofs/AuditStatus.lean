import SheetAudit.Audit.Submission
import SheetAudit.Proofs.CleanRules
import SheetAudit.Proofs.SummaryCounts

/-!
# Status of a submission

An audit of sheets that can be read gathers the findings of every rule on every sheet that the rule
applies to, so its status says whether all of these pairs are clean, and if not, how severe the
rules of the others are.  Which rules apply can be said only if the names that are compared have
texts; otherwise the audit has no outcome.
-/

namespace SheetAudit

/-! ## Results of reported work -/

namespace Reported

variable {α β : Type}

theorem result_bind_of_ok {work : Reported α} {a : α} (hwork : work.result = .ok a)
    (next : α → Reported β) : (work >>= next).result = (next a).result := by
  obtain ⟨reports, result⟩ := work
  cases hwork
  rfl

theorem result_bind_of_error {work : Reported α} {e : AuditError} (hwork : work.result = .error e)
    (next : α → Reported β) : (work >>= next).result = .error e := by
  obtain ⟨reports, result⟩ := work
  cases hwork
  rfl

theorem result_pure (a : α) : (pure a : Reported α).result = .ok a := rfl

theorem result_ofResult (result : Except AuditError α) : (ofResult result).result = result := rfl

theorem ofResult_ok_bind (a : α) (next : α → Reported β) :
    (ofResult (.ok a) >>= next) = next a := rfl

end Reported

/-! ## Names of sheets -/

open Outcome

/-- A sheet's name has a text. -/
def SheetId.HasText (sheetId : SheetId) : Prop :=
  ∃ text, sheetId.shown = .ok text

theorem SheetId.hasText_int_iff {value : Int} :
    (SheetId.int value).HasText ↔ value.natAbs < 10 ^ maxIntDigits := by
  constructor
  · rintro ⟨text, hshown⟩
    rw [shown, intText] at hshown
    split at hshown
    · next hdigits => exact (Nat.length_toDigits_le_iff (by decide) (by decide)).mp hdigits
    · cases hshown
  · exact exists_intText

theorem SheetId.shown_failsOnlyBy (sheetId : SheetId) :
    FailsOnlyBy (· = CellError.tooManyDigits) sheetId.shown := by
  cases sheetId with
  | text value => exact .ok value
  | int value =>
      rw [shown, intText]
      split
      · exact .ok _
      · exact .error rfl

namespace Rule

variable {rule : Rule} {sheetId? : Option SheetId}

theorem appliesTo_eq_true_iff :
    rule.appliesTo sheetId? = .ok true ↔
      rule.sheetId = none ∨ ∃ wanted given text, rule.sheetId = some wanted ∧
        sheetId? = some given ∧ wanted.shown = .ok text ∧ given.shown = .ok text := by
  unfold appliesTo
  cases rule.sheetId with
  | none => simp
  | some wanted =>
      cases sheetId? with
      | none => simp
      | some given => simp [bind_eq_ok_iff]

theorem exists_appliesTo_iff :
    (∃ applies, rule.appliesTo sheetId? = .ok applies) ↔
      ∀ wanted ∈ rule.sheetId, ∀ given ∈ sheetId?, wanted.HasText ∧ given.HasText := by
  unfold appliesTo SheetId.HasText
  cases rule.sheetId with
  | none => simp
  | some wanted =>
      cases sheetId? with
      | none => simp
      | some given =>
          cases hwanted : wanted.shown <;> cases hgiven : given.shown <;> simp [hwanted, hgiven]

theorem appliesTo_failsOnlyBy (rule : Rule) (sheetId? : Option SheetId) :
    FailsOnlyBy (· = CellError.tooManyDigits) (rule.appliesTo sheetId?) := by
  unfold appliesTo
  split
  · exact .ok true
  · exact .ok false
  · next wanted given _ =>
    exact wanted.shown_failsOnlyBy.bind fun _ => given.shown_failsOnlyBy.bind fun _ => .ok _

end Rule

section Applicable

variable {rules applying : List Rule} {sheetId? : Option SheetId}

theorem mem_applicable_iff (happlying : applicable sheetId? rules = .ok applying) {rule : Rule} :
    rule ∈ applying ↔ rule ∈ rules ∧ rule.appliesTo sheetId? = .ok true := by
  induction rules generalizing applying with
  | nil =>
      cases happlying
      simp
  | cons first rules ih =>
      rw [applicable] at happlying
      obtain ⟨applies, hfirst, happlying⟩ := bind_eq_ok_iff.mp happlying
      obtain ⟨others, hothers, happlying⟩ := bind_eq_ok_iff.mp happlying
      cases happlying
      cases applies with
      | true =>
          rw [if_pos rfl, List.mem_cons, List.mem_cons, ih hothers]
          constructor
          · rintro (rfl | ⟨hmem, happlies⟩)
            · exact ⟨.inl rfl, hfirst⟩
            · exact ⟨.inr hmem, happlies⟩
          · rintro ⟨rfl | hmem, happlies⟩
            · exact .inl rfl
            · exact .inr ⟨hmem, happlies⟩
      | false =>
          rw [if_neg Bool.false_ne_true, List.mem_cons, ih hothers]
          refine ⟨fun ⟨hmem, happlies⟩ => ⟨.inr hmem, happlies⟩, ?_⟩
          rintro ⟨rfl | hmem, happlies⟩
          · rw [hfirst] at happlies
            cases happlies
          · exact ⟨hmem, happlies⟩

theorem exists_applicable_iff :
    (∃ applying, applicable sheetId? rules = .ok applying) ↔
      ∀ rule ∈ rules, ∃ applies, rule.appliesTo sheetId? = .ok applies := by
  induction rules with
  | nil => simp [applicable]
  | cons first rules ih =>
      rw [List.forall_mem_cons, ← ih, applicable]
      cases first.appliesTo sheetId? with
      | error e => simp
      | ok applies => cases applicable sheetId? rules <;> simp

theorem applicable_failsOnlyBy (sheetId? : Option SheetId) (rules : List Rule) :
    FailsOnlyBy (· = CellError.tooManyDigits) (applicable sheetId? rules) := by
  induction rules with
  | nil => exact .ok []
  | cons first rules ih =>
      exact (first.appliesTo_failsOnlyBy sheetId?).bind fun _ => ih.bind fun _ => .ok _

end Applicable

namespace AuditPlan

variable {plan : AuditPlan} {sheets : List SheetSource} {sheet : SheetSource}

/-- A rule of a plan applies to a sheet: it names no sheet, or its name has the text of the name
that the sheet is given. -/
def Applies (plan : AuditPlan) (rule : Rule) (sheet : SheetSource) : Prop :=
  rule ∈ plan.rules ∧
    (rule.sheetId = none ∨ ∃ wanted given text, rule.sheetId = some wanted ∧
      sheetId? plan.sheetIds sheet = some given ∧ wanted.shown = .ok text ∧
        given.shown = .ok text)

theorem mem_rulesFor_iff {rules : List Rule} (hrules : plan.rulesFor sheet = .ok rules)
    {rule : Rule} : rule ∈ rules ↔ plan.Applies rule sheet := by
  rw [mem_applicable_iff hrules, Rule.appliesTo_eq_true_iff, Applies]

/-- The names that are compared all have texts: those that rules give, where the sheet has a name,
and those of the sheets, where a rule gives one. -/
def NamesShown (plan : AuditPlan) (sheets : List SheetSource) : Prop :=
  ∀ sheet ∈ sheets, ∀ rule ∈ plan.rules, ∀ wanted ∈ rule.sheetId,
    ∀ given ∈ sheetId? plan.sheetIds sheet, wanted.HasText ∧ given.HasText

theorem namesShown_iff :
    plan.NamesShown sheets ↔ ∀ sheet ∈ sheets, ∃ rules, plan.rulesFor sheet = .ok rules := by
  simp only [NamesShown, rulesFor, exists_applicable_iff, Rule.exists_appliesTo_iff]

/-- The rules that apply to a sheet, none if a name has no text. -/
def rulesOn (plan : AuditPlan) (sheet : SheetSource) : List Rule :=
  (plan.rulesFor sheet).toOption.getD []

theorem NamesShown.rulesFor_eq (hnames : plan.NamesShown sheets) (hsheet : sheet ∈ sheets) :
    plan.rulesFor sheet = .ok (plan.rulesOn sheet) := by
  obtain ⟨rules, hrules⟩ := namesShown_iff.mp hnames sheet hsheet
  rw [rulesOn, hrules]
  rfl

theorem NamesShown.mem_rulesOn_iff (hnames : plan.NamesShown sheets) (hsheet : sheet ∈ sheets)
    {rule : Rule} : rule ∈ plan.rulesOn sheet ↔ plan.Applies rule sheet :=
  mem_rulesFor_iff (hnames.rulesFor_eq hsheet)

/-! ## Findings of an audit -/

theorem auditRules_result {stream : ChunkStream FileError} {found : Rule → List Finding}
    {rules : List Rule}
    (hfound : ∀ rule ∈ rules,
      rule.findings plan.chunkSize plan.submissionId stream = .ok (found rule))
    (name : String) (start : Int) (place total sheets : Nat) :
    (plan.auditRules name stream start place total sheets rules).result =
      .ok (rules.flatMap found) := by
  induction rules generalizing place with
  | nil => rfl
  | cons rule others ih =>
      have hhere := hfound rule (by simp)
      have hlater := ih (fun other hother => hfound other (by simp [hother])) (place + 1)
      rw [auditRules, Reported.result_bind_of_ok (a := ()) rfl,
        Reported.result_bind_of_ok (a := found rule), Reported.result_bind_of_ok hlater,
        Reported.result_pure, List.flatMap_cons]
      rw [Reported.ofResult, hhere]
      rfl

theorem checkSheet_result {stream : SheetSource → ChunkStream FileError}
    {found : Rule → List Finding} {rules : List Rule}
    (hfound : ∀ rule ∈ rules,
      rule.findings plan.chunkSize plan.submissionId (stream sheet) = .ok (found rule))
    (place sheets : Nat) :
    (plan.checkSheet stream place sheets sheet rules).result = .ok (rules.flatMap found) := by
  unfold checkSheet
  split
  · next hnone =>
    rw [List.isEmpty_iff.mp hnone]
    rfl
  · rw [Reported.result_bind_of_ok (a := ()) rfl]
    exact auditRules_result hfound _ _ _ _ _

theorem auditSheet_of_rules {rules : List Rule} (hrules : plan.rulesFor sheet = .ok rules)
    (stream : SheetSource → ChunkStream FileError) (place sheets : Nat) :
    plan.auditSheet stream place sheets sheet =
      plan.checkSheet stream place sheets sheet rules := by
  rw [auditSheet, hrules, mapError_ok, Reported.ofResult_ok_bind]

theorem auditSheets_result {stream : SheetSource → ChunkStream FileError}
    {rules : SheetSource → List Rule} {found : SheetSource → Rule → List Finding}
    (hrules : ∀ sheet ∈ sheets, plan.rulesFor sheet = .ok (rules sheet))
    (hfound : ∀ sheet ∈ sheets, ∀ rule ∈ rules sheet,
      rule.findings plan.chunkSize plan.submissionId (stream sheet) = .ok (found sheet rule))
    (place total : Nat) :
    (plan.auditSheets stream place total sheets).result =
      .ok (sheets.flatMap fun sheet => (rules sheet).flatMap (found sheet)) := by
  induction sheets generalizing place with
  | nil => rfl
  | cons sheet others ih =>
      rw [List.forall_mem_cons] at hrules hfound
      have hhere := checkSheet_result hfound.1 place total
      rw [auditSheets, auditSheet_of_rules hrules.1, Reported.result_bind_of_ok hhere,
        Reported.result_bind_of_ok (ih hrules.2 hfound.2 (place + 1)), Reported.result_pure,
        List.flatMap_cons]

/-- If all findings can be had, only a name without a text ends an audit of sheets. -/
theorem auditSheets_of_not_namesShown {stream : SheetSource → ChunkStream FileError}
    (hfound : ∀ sheet ∈ sheets, ∀ rule, plan.Applies rule sheet → ∃ findings,
      rule.findings plan.chunkSize plan.submissionId (stream sheet) = .ok findings)
    (hnames : ¬ plan.NamesShown sheets) (place total : Nat) :
    (plan.auditSheets stream place total sheets).result = .error (.name .tooManyDigits) := by
  rw [namesShown_iff] at hnames
  induction sheets generalizing place with
  | nil => simp at hnames
  | cons sheet others ih =>
      rw [List.forall_mem_cons] at hfound hnames
      rw [auditSheets]
      cases hrules : plan.rulesFor sheet with
      | error e =>
          obtain rfl : e = .tooManyDigits := applicable_failsOnlyBy _ _ e hrules
          apply Reported.result_bind_of_error
          rw [auditSheet, hrules]
          rfl
      | ok rules =>
          have hhere : ∀ rule ∈ rules, ∃ findings,
              rule.findings plan.chunkSize plan.submissionId (stream sheet) = .ok findings :=
            fun rule hrule => hfound.1 rule ((mem_rulesFor_iff hrules).mp hrule)
          have hlater : ¬ ∀ other ∈ others, ∃ rules, plan.rulesFor other = .ok rules :=
            fun hall => hnames ⟨⟨rules, hrules⟩, hall⟩
          choose! found hfindings using hhere
          rw [auditSheet_of_rules hrules,
            Reported.result_bind_of_ok (checkSheet_result hfindings place total)]
          exact Reported.result_bind_of_error (ih hfound.2 hlater (place + 1)) _

theorem auditOpened_result {stream : SheetSource → ChunkStream FileError} {findings : List Finding}
    (hfindings : (plan.auditSheets stream 0 sheets.length sheets).result = .ok findings)
    (path : Option String) :
    (plan.auditOpened path (.ok sheets) stream).result =
      .ok ⟨findings, Summary.ofFindings findings⟩ := by
  unfold auditOpened
  rw [Reported.result_bind_of_ok (a := ()) rfl, Reported.result_bind_of_ok (a := sheets) rfl,
    Reported.result_bind_of_ok (a := ()) rfl, Reported.result_bind_of_ok hfindings,
    Reported.result_bind_of_ok (a := ()) rfl, Reported.result_bind_of_ok (a := ()) rfl]
  rfl

theorem auditOpened_of_error {stream : SheetSource → ChunkStream FileError} {e : AuditError}
    (herror : (plan.auditSheets stream 0 sheets.length sheets).result = .error e)
    (path : Option String) : (plan.auditOpened path (.ok sheets) stream).result = .error e := by
  unfold auditOpened
  rw [Reported.result_bind_of_ok (a := ()) rfl, Reported.result_bind_of_ok (a := sheets) rfl,
    Reported.result_bind_of_ok (a := ()) rfl]
  exact Reported.result_bind_of_error herror _

/-! ## Audits of files -/

/-- An audit of sheets looks at the streams of these sheets only. -/
theorem auditSheets_congr {stream stream' : SheetSource → ChunkStream FileError}
    (hstream : ∀ sheet ∈ sheets, stream sheet = stream' sheet) (place total : Nat) :
    plan.auditSheets stream place total sheets = plan.auditSheets stream' place total sheets := by
  induction sheets generalizing place with
  | nil => rfl
  | cons sheet others ih =>
      rw [List.forall_mem_cons] at hstream
      have hhere : plan.auditSheet stream place total sheet =
          plan.auditSheet stream' place total sheet := by
        simp only [auditSheet, checkSheet, hstream.1]
      rw [auditSheets, auditSheets, hhere, ih hstream.2]

/-- The audit of a file is the audit of the sheets that it lists, each with the chunks of its
rows. -/
theorem audit_eq_auditOpened {folder : Folder} {path : Option String}
    (hopen : folder.openSheets path = .ok sheets) {stream : SheetSource → ChunkStream FileError}
    (hstream : ∀ sheet ∈ sheets, stream sheet = (folder.rowsOf sheet).chunked plan.chunkSize) :
    plan.audit folder path = plan.auditOpened path (.ok sheets) stream := by
  simp only [audit, auditOpened, hopen, mapError_ok, Reported.ofResult_ok_bind,
    auditSheets_congr hstream]

/-! ## Main statement -/

/-- A rule applies to a sheet and is not clean there. -/
def Unclean (plan : AuditPlan) (sheets : List SheetSource) (rows : SheetSource → List Row)
    (pair : SheetSource × Rule) : Prop :=
  pair.1 ∈ sheets ∧ plan.Applies pair.2 pair.1 ∧ ¬ pair.2.CleanOn (rows pair.1)

/-- The failed findings of an audit are due to the rules that are not clean. -/
theorem exists_auditSheets_failures (hsize : 0 < plan.chunkSize)
    (hlimit : ∀ rule ∈ plan.rules, rule.WithinLimit) {rows : SheetSource → List Row}
    (hrows : ∀ sheet ∈ sheets, (rows sheet).length < 10 ^ maxIntDigits)
    {stream : SheetSource → ChunkStream FileError}
    (hstream : ∀ sheet ∈ sheets, stream sheet = sheetStream plan.chunkSize (rows sheet))
    (hnames : plan.NamesShown sheets) :
    ∃ findings, (plan.auditSheets stream 0 sheets.length sheets).result = .ok findings ∧
      Summary.FailuresOf (plan.Unclean sheets rows) (fun pair => pair.2.severity) findings := by
  have hpair (sheet : SheetSource) (hsheet : sheet ∈ sheets) (rule : Rule)
      (hrule : plan.Applies rule sheet) :=
    Rule.exists_findings plan.submissionId (hlimit rule hrule.1) (hrows sheet hsheet) hsize
  choose! found hfound hseverity hclean using hpair
  have hfindings : ∀ sheet ∈ sheets, ∀ rule ∈ plan.rulesOn sheet,
      rule.findings plan.chunkSize plan.submissionId (stream sheet) = .ok (found sheet rule) := by
    intro sheet hsheet rule hrule
    rw [hstream sheet hsheet]
    exact hfound sheet hsheet rule ((hnames.mem_rulesOn_iff hsheet).mp hrule)
  have hresult := auditSheets_result (fun _ => hnames.rulesFor_eq) hfindings 0 sheets.length
  refine ⟨_, hresult, ?_, ?_⟩
  · intro finding hfinding hfailed
    simp only [List.mem_flatMap] at hfinding
    obtain ⟨sheet, hsheet, rule, hrule, hmem⟩ := hfinding
    rw [hnames.mem_rulesOn_iff hsheet] at hrule
    refine ⟨(sheet, rule), ⟨hsheet, hrule, ?_⟩, hseverity sheet hsheet rule hrule finding hmem⟩
    intro hcleanOn
    have hpassed := (hclean sheet hsheet rule hrule).mpr hcleanOn finding hmem
    rw [hfailed] at hpassed
    cases hpassed
  · rintro ⟨sheet, rule⟩ ⟨hsheet, hrule, hnot⟩
    rw [← hclean sheet hsheet rule hrule] at hnot
    push Not at hnot
    obtain ⟨finding, hmem, hfailed⟩ := hnot
    refine ⟨finding, ?_, Bool.eq_false_iff.mpr hfailed,
      hseverity sheet hsheet rule hrule finding hmem⟩
    simp only [List.mem_flatMap]
    exact ⟨sheet, hsheet, rule, (hnames.mem_rulesOn_iff hsheet).mpr hrule, hmem⟩

/-- The status of a submission whose sheets can be read: it passed if every rule is clean on every
sheet that it applies to, it failed if a rule with the severity of an error is not, and it needs a
review if only rules with the severity of a warning are not.  An audit has no outcome exactly if a
name that it must compare has no text, being a number of more than 4300 digits.  The bound on the
rows only says that the number of a row can be written down, in as many digits; the address of a
finding needs its text.  All this holds of a file that lists these sheets and has these rows. -/
theorem status_of_audit (plan : AuditPlan) (hsize : 0 < plan.chunkSize)
    (hlimit : ∀ rule ∈ plan.rules, rule.WithinLimit) (path : Option String)
    (sheets : List SheetSource) (rows : SheetSource → List Row)
    (hrows : ∀ sheet ∈ sheets, (rows sheet).length < 10 ^ maxIntDigits)
    (stream : SheetSource → ChunkStream FileError)
    (hstream : ∀ sheet ∈ sheets, stream sheet = sheetStream plan.chunkSize (rows sheet)) :
    let audit := plan.auditOpened path (.ok sheets) stream
    (plan.NamesShown sheets → ∃ outcome, audit.result = .ok outcome ∧
      (outcome.summary.status = .passed ↔
        ∀ sheet ∈ sheets, ∀ rule, plan.Applies rule sheet → rule.CleanOn (rows sheet)) ∧
      (outcome.summary.status = .failed ↔
        ∃ sheet ∈ sheets, ∃ rule, plan.Applies rule sheet ∧ ¬ rule.CleanOn (rows sheet) ∧
          rule.severity = .error) ∧
      (outcome.summary.status = .needsReview ↔
        (∃ sheet ∈ sheets, ∃ rule, plan.Applies rule sheet ∧ ¬ rule.CleanOn (rows sheet)) ∧
          ∀ sheet ∈ sheets, ∀ rule, plan.Applies rule sheet → ¬ rule.CleanOn (rows sheet) →
            rule.severity = .warning)) ∧
    (¬ plan.NamesShown sheets → audit.result = .error (.name .tooManyDigits)) ∧
    ∀ folder : Folder, folder.openSheets path = .ok sheets →
      (∀ sheet ∈ sheets, folder.rowsOf sheet = .ofRows (rows sheet)) →
      plan.audit folder path = audit := by
  intro audit
  refine ⟨?_, ?_, ?_⟩
  · intro hnames
    obtain ⟨findings, hresult, hfailures⟩ :=
      exists_auditSheets_failures hsize hlimit hrows hstream hnames
    refine ⟨_, auditOpened_result hresult path, ?_, ?_, ?_⟩
    · rw [hfailures.status_passed]
      simp only [Unclean, Prod.forall, not_and, not_not]
      exact ⟨fun hall sheet hsheet rule => hall sheet rule hsheet,
        fun hall sheet rule hsheet => hall sheet hsheet rule⟩
    · rw [hfailures.status_failed]
      simp only [Unclean, Prod.exists, and_assoc, exists_and_left]
    · rw [hfailures.status_needsReview]
      simp only [Unclean, Prod.exists, Prod.forall, and_imp, exists_and_left]
      exact and_congr_right fun _ =>
        ⟨fun hall sheet hsheet rule => hall sheet rule hsheet,
          fun hall sheet rule hsheet => hall sheet hsheet rule⟩
  · intro hnames
    refine auditOpened_of_error (auditSheets_of_not_namesShown ?_ hnames 0 _) path
    intro sheet hsheet rule hrule
    obtain ⟨found, hfound, -⟩ := Rule.exists_findings plan.submissionId (hlimit rule hrule.1)
      (hrows sheet hsheet) hsize
    rw [hstream sheet hsheet]
    exact ⟨found, hfound⟩
  · intro folder hopen hfolder
    apply audit_eq_auditOpened hopen
    intro sheet hsheet
    rw [hstream sheet hsheet, hfolder sheet hsheet]
    rfl

theorem status_of_audit_two_rules :
    let cells : Rule := ⟨none, none, none, "required", "B3:A2", "not_empty", "", .error⟩
    let column : Rule := ⟨none, none, some (.int 0), "range", "size", "min:1", "", .warning⟩
    let plan : AuditPlan := ⟨[cells, column], 2, none, none⟩
    let sheet : SheetSource := ⟨0, "Data", "a.xlsx", .xlsx⟩
    let rows : List Row := [[.text "name", .text "Size"], [.text "x", .int 1], [.text "y"]]
    (cells.WithinLimit ∧ column.WithinLimit) ∧ plan.NamesShown [sheet] ∧
      ∃ outcome,
        (plan.auditOpened none (.ok [sheet]) fun _ => sheetStream 2 rows).result = .ok outcome ∧
          (outcome.summary.status = .passed ↔
            ∀ other ∈ [sheet], ∀ rule, plan.Applies rule other → rule.CleanOn rows) := by
  intro cells column plan sheet rows
  have hcells : cells.WithinLimit := by
    intro field area hread harea
    have hfield : Field.ofText cells.field = .ok (.range "B3:A2" ⟨2, 1⟩ ⟨1, 0⟩) := by
      decide +kernel
    rw [hfield] at hread
    cases hread
    cases harea
    decide
  have hcolumn : column.WithinLimit := by
    intro field area hread harea
    have hfield : Field.ofText column.field = .ok (.column "size") := by decide +kernel
    rw [hfield] at hread
    cases hread
    cases harea
  have hrules : ∀ rule ∈ plan.rules, rule.WithinLimit := by
    simp only [plan, List.forall_mem_cons]
    exact ⟨hcells, hcolumn, List.forall_mem_nil _⟩
  have hnames : plan.NamesShown [sheet] := by
    rw [namesShown_iff, List.forall_mem_singleton]
    exact ⟨[cells, column], by decide +kernel⟩
  have hrows : rows.length < 10 ^ maxIntDigits :=
    lt_of_le_of_lt (by decide) (Nat.lt_pow_self (by decide))
  obtain ⟨hshown, -⟩ := status_of_audit plan (by decide) hrules none [sheet] (fun _ => rows)
    (fun _ _ => hrows) (fun _ => sheetStream 2 rows) (fun _ _ => rfl)
  obtain ⟨outcome, hresult, hpassed, -⟩ := hshown hnames
  exact ⟨⟨hcells, hcolumn⟩, hnames, outcome, hresult, hpassed⟩

end AuditPlan

end SheetAudit
