import SheetAudit.Proofs.AuditStatus
import SheetAudit.Proofs.ProgressShares
import SheetAudit.Proofs.StreamFaults

/-!
# Order of progress

The sheets of a submission follow each other from 10 to 90 percent, and so do the rules of a sheet.
Progress falls only where the last rule of a sheet is reported beyond the percentage at which a
later sheet starts, and then by one percent.
-/

namespace SheetAudit

/-! ## Percentages of a sheet -/

namespace Progress

/-- The percentages reported on the sheet at a place among others, to which so many rules apply. -/
def ofRules (place sheets : Nat) : Nat → List Int
  | 0 => []
  | others + 1 =>
    ofSheet place sheets ::
      (List.range (others + 1)).map fun rule =>
        ofRule (ofSheet place sheets) rule (others + 1) sheets

/-- The percentage of the last of so many rules on a sheet. -/
def ofLastRule (place sheets rules : Nat) : Int :=
  ofRule (ofSheet place sheets) (rules - 1) rules sheets

variable {place sheets rules : Nat}

theorem mem_ofRules_iff {percent : Int} :
    percent ∈ ofRules place sheets rules ↔ rules ≠ 0 ∧ (percent = ofSheet place sheets ∨
      ∃ rule < rules, percent = ofRule (ofSheet place sheets) rule rules sheets) := by
  cases rules with
  | zero => simp [ofRules]
  | succ others => simp [ofRules, eq_comm]

theorem ofSheet_mem_ofRules (hrules : rules ≠ 0) :
    ofSheet place sheets ∈ ofRules place sheets rules :=
  mem_ofRules_iff.mpr ⟨hrules, .inl rfl⟩

theorem ofLastRule_mem_ofRules (hrules : rules ≠ 0) :
    ofLastRule place sheets rules ∈ ofRules place sheets rules :=
  mem_ofRules_iff.mpr ⟨hrules, .inr ⟨rules - 1, by omega, rfl⟩⟩

theorem ofSheet_le_of_mem {percent : Int} (hsheets : 0 < sheets)
    (hmem : percent ∈ ofRules place sheets rules) : ofSheet place sheets ≤ percent := by
  obtain ⟨hrules, rfl | ⟨rule, -, rfl⟩⟩ := mem_ofRules_iff.mp hmem
  · exact le_rfl
  · exact start_le_ofRule _ rule (Nat.pos_of_ne_zero hrules) hsheets

theorem le_ofLastRule_of_mem {percent : Int} (hsheets : 0 < sheets)
    (hmem : percent ∈ ofRules place sheets rules) : percent ≤ ofLastRule place sheets rules := by
  obtain ⟨hrules, rfl | ⟨rule, hrule, rfl⟩⟩ := mem_ofRules_iff.mp hmem
  · exact start_le_ofRule _ _ (Nat.pos_of_ne_zero hrules) hsheets
  · exact ofRule_mono _ (Nat.pos_of_ne_zero hrules) hsheets (Nat.le_sub_one_of_lt hrule)

theorem mem_ofRules_bounds {percent : Int} (hplace : place < sheets)
    (hmem : percent ∈ ofRules place sheets rules) : 10 ≤ percent ∧ percent ≤ 90 := by
  have hsheets : 0 < sheets := Nat.zero_lt_of_lt hplace
  have hrules : 0 < rules := Nat.pos_of_ne_zero (mem_ofRules_iff.mp hmem).1
  constructor
  · exact (ten_le_ofSheet place hsheets).trans (ofSheet_le_of_mem hsheets hmem)
  · exact (le_ofLastRule_of_mem hsheets hmem).trans
      (ofRule_le_ninety hplace (Nat.sub_le rules 1) hrules)

theorem pairwise_ofRules (hsheets : 0 < sheets) :
    (ofRules place sheets rules).Pairwise (· ≤ ·) := by
  cases rules with
  | zero => exact .nil
  | succ others =>
      rw [ofRules, List.pairwise_cons, List.pairwise_map]
      constructor
      · intro percent hmem
        obtain ⟨rule, -, rfl⟩ := List.mem_map.mp hmem
        exact start_le_ofRule _ rule others.succ_pos hsheets
      · exact List.pairwise_le_range.imp fun hle => ofRule_mono _ others.succ_pos hsheets hle

end Progress

/-! ## Reports -/

/-- The percentages of reports. -/
def percentsOf (reports : List Report) : List Int :=
  reports.map fun report => (report.percent : Int)

theorem percentsOf_append (earlier later : List Report) :
    percentsOf (earlier ++ later) = percentsOf earlier ++ percentsOf later :=
  List.map_append

theorem percent_ofPercent {percent : Int} (message : String) (hlow : 0 ≤ percent)
    (hhigh : percent ≤ 100) : ((Report.ofPercent percent message).percent : Int) = percent := by
  rw [Report.ofPercent, min_eq_right hhigh, max_eq_right hlow, Int.toNat_of_nonneg hlow]

namespace Reported

variable {α β : Type}

theorem reports_bind_of_ok {work : Reported α} {a : α} (hwork : work.result = .ok a)
    (next : α → Reported β) : (work >>= next).reports = work.reports ++ (next a).reports := by
  obtain ⟨reports, result⟩ := work
  cases hwork
  rfl

theorem percentsOf_bind_of_ok {work : Reported α} {a : α} (hwork : work.result = .ok a)
    (next : α → Reported β) :
    percentsOf (work >>= next).reports =
      percentsOf work.reports ++ percentsOf (next a).reports := by
  rw [reports_bind_of_ok hwork, percentsOf_append]

theorem percentsOf_report {percent : Int} (message : String) (hlow : 0 ≤ percent)
    (hhigh : percent ≤ 100) : percentsOf (report percent message).reports = [percent] := by
  have hpercent := percent_ofPercent message hlow hhigh
  exact congrArg (fun shown => [shown]) hpercent

theorem percentsOf_ofResult (result : Except AuditError α) :
    percentsOf (ofResult result).reports = [] := rfl

theorem percentsOf_pure (a : α) : percentsOf (pure a : Reported α).reports = [] := rfl

end Reported

namespace AuditPlan

open Reported Progress

variable {plan : AuditPlan}

theorem auditRules_percents {stream : ChunkStream FileError} {found : Rule → List Finding}
    {rules : List Rule}
    (hfound : ∀ rule ∈ rules,
      rule.findings plan.chunkSize plan.submissionId stream = .ok (found rule))
    (name : String) {start : Int} {total sheets : Nat}
    (hbounds : ∀ rule < total, 0 ≤ ofRule start rule total sheets ∧
      ofRule start rule total sheets ≤ 100)
    {place : Nat} (hplace : place + rules.length = total) :
    percentsOf (plan.auditRules name stream start place total sheets rules).reports =
      (List.range' place rules.length).map fun rule => ofRule start rule total sheets := by
  induction rules generalizing place with
  | nil => rfl
  | cons rule others ih =>
      have hhere := hfound rule (by simp)
      have hlater := fun other hother => hfound other (List.mem_cons_of_mem rule hother)
      rw [List.length_cons] at hplace
      obtain ⟨hlow, hhigh⟩ := hbounds place (by omega)
      rw [auditRules, percentsOf_bind_of_ok (a := ()) rfl, percentsOf_report _ hlow hhigh,
        percentsOf_bind_of_ok (a := found rule) (by rw [ofResult, hhere]; rfl),
        percentsOf_ofResult,
        percentsOf_bind_of_ok (auditRules_result hlater name start (place + 1) total sheets),
        percentsOf_pure, ih hlater (by omega), List.length_cons, List.range'_succ, List.map_cons,
        List.append_nil]
      rfl

theorem checkSheet_percents {stream : SheetSource → ChunkStream FileError}
    {found : Rule → List Finding} {sheet : SheetSource} {rules : List Rule}
    (hfound : ∀ rule ∈ rules,
      rule.findings plan.chunkSize plan.submissionId (stream sheet) = .ok (found rule))
    {place sheets : Nat} (hplace : place < sheets) :
    percentsOf (plan.checkSheet stream place sheets sheet rules).reports =
      ofRules place sheets rules.length := by
  have hbounds (percent : Int) (hmem : percent ∈ ofRules place sheets rules.length) :
      0 ≤ percent ∧ percent ≤ 100 := by
    obtain ⟨hlow, hhigh⟩ := mem_ofRules_bounds hplace hmem
    constructor <;> omega
  unfold checkSheet
  split
  · next hnone =>
    rw [List.isEmpty_iff.mp hnone]
    rfl
  · next hsome =>
    have hcount : rules.length ≠ 0 := by
      rwa [List.isEmpty_iff, ← List.length_eq_zero_iff] at hsome
    obtain ⟨hlow, hhigh⟩ := hbounds _ (ofSheet_mem_ofRules hcount)
    have hrules : ∀ rule < rules.length,
        0 ≤ ofRule (ofSheet place sheets) rule rules.length sheets ∧
          ofRule (ofSheet place sheets) rule rules.length sheets ≤ 100 :=
      fun rule hrule => hbounds _ (mem_ofRules_iff.mpr ⟨hcount, .inr ⟨rule, hrule, rfl⟩⟩)
    rw [percentsOf_bind_of_ok (a := ()) rfl, percentsOf_report _ hlow hhigh,
      auditRules_percents hfound sheet.name hrules (Nat.zero_add _), ← List.range_eq_range']
    obtain ⟨others, hothers⟩ := Nat.exists_eq_succ_of_ne_zero hcount
    rw [hothers]
    rfl

theorem auditSheets_percents {stream : SheetSource → ChunkStream FileError}
    {rules : SheetSource → List Rule} {found : SheetSource → Rule → List Finding}
    {sheets : List SheetSource} (hrules : ∀ sheet ∈ sheets, plan.rulesFor sheet = .ok (rules sheet))
    (hfound : ∀ sheet ∈ sheets, ∀ rule ∈ rules sheet,
      rule.findings plan.chunkSize plan.submissionId (stream sheet) = .ok (found sheet rule))
    {place total : Nat} (hplace : place + sheets.length = total) :
    percentsOf (plan.auditSheets stream place total sheets).reports =
      (sheets.zipIdx place).flatMap fun entry =>
        ofRules entry.2 total (rules entry.1).length := by
  induction sheets generalizing place with
  | nil => rfl
  | cons sheet others ih =>
      rw [List.forall_mem_cons] at hrules hfound
      rw [List.length_cons] at hplace
      rw [auditSheets, auditSheet_of_rules hrules.1,
        percentsOf_bind_of_ok (checkSheet_result hfound.1 place total),
        percentsOf_bind_of_ok (auditSheets_result hrules.2 hfound.2 (place + 1) total),
        percentsOf_pure, checkSheet_percents hfound.1 (by omega), ih hrules.2 hfound.2 (by omega),
        List.zipIdx_cons, List.flatMap_cons, List.append_nil]

/-- The percentages reported on the sheets of a submission. -/
def sheetPercents (plan : AuditPlan) (sheets : List SheetSource) : List Int :=
  sheets.zipIdx.flatMap fun entry =>
    ofRules entry.2 sheets.length (plan.rulesOn entry.1).length

theorem auditOpened_percents {stream : SheetSource → ChunkStream FileError}
    {found : SheetSource → Rule → List Finding} {sheets : List SheetSource}
    (hnames : plan.NamesShown sheets)
    (hfound : ∀ sheet ∈ sheets, ∀ rule ∈ plan.rulesOn sheet,
      rule.findings plan.chunkSize plan.submissionId (stream sheet) = .ok (found sheet rule))
    (path : Option String) :
    percentsOf (plan.auditOpened path (.ok sheets) stream).reports =
      0 :: 10 :: (plan.sheetPercents sheets ++ [90, 100]) := by
  have hrules : ∀ sheet ∈ sheets, plan.rulesFor sheet = .ok (plan.rulesOn sheet) :=
    fun _ => hnames.rulesFor_eq
  have hpercents := auditSheets_percents hrules hfound (Nat.zero_add sheets.length)
  unfold auditOpened
  rw [percentsOf_bind_of_ok (a := ()) rfl, percentsOf_bind_of_ok (a := sheets) rfl,
    percentsOf_bind_of_ok (a := ()) rfl,
    percentsOf_bind_of_ok (auditSheets_result hrules hfound 0 _), hpercents]
  rfl

/-! ## Order -/

theorem sheetPercents_bounds {sheets : List SheetSource} {percent : Int}
    (hmem : percent ∈ plan.sheetPercents sheets) : 10 ≤ percent ∧ percent ≤ 90 := by
  obtain ⟨entry, hentry, hmem⟩ := List.mem_flatMap.mp hmem
  have hplace := List.snd_lt_of_mem_zipIdx hentry
  exact mem_ofRules_bounds (by omega) hmem

theorem pairwise_framed_iff {slack : Int} (hslack : 0 ≤ slack) {percents : List Int}
    (hbounds : ∀ percent ∈ percents, 10 ≤ percent ∧ percent ≤ 90) :
    (0 :: 10 :: (percents ++ [90, 100])).Pairwise (fun earlier later => earlier ≤ later + slack) ↔
      percents.Pairwise (fun earlier later => earlier ≤ later + slack) := by
  have hpair : [(90 : Int), 100].Pairwise (fun earlier later => earlier ≤ later + slack) := by
    simp only [List.pairwise_cons, List.mem_singleton, forall_eq, List.not_mem_nil]
    grind
  rw [List.pairwise_cons, List.pairwise_cons, List.pairwise_append]
  constructor
  · exact fun hframed => hframed.2.2.1
  · intro hinner
    refine ⟨?_, ?_, hinner, hpair, ?_⟩
    · grind
    · grind
    · grind

/-- Progress falls by at most so many percent on the sheets if and only if no sheet's last rule is
further beyond the start of a later sheet. -/
theorem pairwise_sheetPercents_iff {slack : Int} (hslack : 0 ≤ slack) (sheets : List SheetSource) :
    (plan.sheetPercents sheets).Pairwise (fun earlier later => earlier ≤ later + slack) ↔
      ∀ first second (_ : first < second) (_ : second < sheets.length),
        plan.rulesOn sheets[first] ≠ [] → plan.rulesOn sheets[second] ≠ [] →
          ofLastRule first sheets.length (plan.rulesOn sheets[first]).length ≤
            ofSheet second sheets.length + slack := by
  have hinner : ∀ entry ∈ sheets.zipIdx,
      (ofRules entry.2 sheets.length (plan.rulesOn entry.1).length).Pairwise
        (fun earlier later => earlier ≤ later + slack) := by
    intro entry hentry
    have hsheets : 0 < sheets.length := Nat.zero_lt_of_lt (List.snd_lt_of_mem_zipIdx hentry)
    exact (pairwise_ofRules hsheets).imp fun hle => by omega
  rw [sheetPercents, List.pairwise_flatMap, and_iff_right hinner, List.pairwise_iff_getElem]
  simp only [List.length_zipIdx, List.getElem_zipIdx, Nat.zero_add]
  constructor
  · intro hall first second hlt hsecond hfirstRules hsecondRules
    exact hall first second (hlt.trans hsecond) hsecond hlt _
      (ofLastRule_mem_ofRules (mt List.length_eq_zero_iff.mp hfirstRules)) _
      (ofSheet_mem_ofRules (mt List.length_eq_zero_iff.mp hsecondRules))
  · intro hall first second _ hsecond hlt earlier hearlier later hlater
    have hsheets : 0 < sheets.length := Nat.zero_lt_of_lt hsecond
    have hfirstRules := mt List.length_eq_zero_iff.mpr (mem_ofRules_iff.mp hearlier).1
    have hsecondRules := mt List.length_eq_zero_iff.mpr (mem_ofRules_iff.mp hlater).1
    calc earlier ≤ ofLastRule first sheets.length (plan.rulesOn sheets[first]).length :=
          le_ofLastRule_of_mem hsheets hearlier
      _ ≤ ofSheet second sheets.length + slack :=
          hall first second hlt hsecond hfirstRules hsecondRules
      _ ≤ later + slack := by
          have := ofSheet_le_of_mem hsheets hlater
          omega

theorem pairwise_reports_iff {stream : SheetSource → ChunkStream FileError}
    {found : SheetSource → Rule → List Finding} {sheets : List SheetSource}
    (hnames : plan.NamesShown sheets)
    (hfound : ∀ sheet ∈ sheets, ∀ rule ∈ plan.rulesOn sheet,
      rule.findings plan.chunkSize plan.submissionId (stream sheet) = .ok (found sheet rule))
    (path : Option String) (slack : Nat) :
    ((plan.auditOpened path (.ok sheets) stream).reports.Pairwise
        fun earlier later => earlier.percent ≤ later.percent + slack) ↔
      ∀ first second (_ : first < second) (_ : second < sheets.length),
        plan.rulesOn sheets[first] ≠ [] → plan.rulesOn sheets[second] ≠ [] →
          ofLastRule first sheets.length (plan.rulesOn sheets[first]).length ≤
            ofSheet second sheets.length + slack := by
  have hslack : (0 : Int) ≤ slack := Int.natCast_nonneg slack
  rw [← pairwise_sheetPercents_iff hslack,
    ← pairwise_framed_iff hslack fun _ hmem => sheetPercents_bounds hmem,
    ← auditOpened_percents hnames hfound path, percentsOf, List.pairwise_map]
  apply List.Pairwise.iff
  intro earlier later
  omega

theorem exists_found (plan : AuditPlan) {stream : SheetSource → ChunkStream FileError}
    {sheets : List SheetSource}
    (hstream : ∀ sheet ∈ sheets, ∀ fault ∈ (stream sheet).fault?, fault.isFatal = false) :
    ∃ found : SheetSource → Rule → List Finding, ∀ sheet ∈ sheets, ∀ rule : Rule,
      rule.findings plan.chunkSize plan.submissionId (stream sheet) = .ok (found sheet rule) := by
  have hpair (sheet : SheetSource) (hsheet : sheet ∈ sheets) (rule : Rule) :=
    rule.exists_findings_of_not_fatal plan.submissionId plan.chunkSize (hstream sheet hsheet)
  choose! found hfound using hpair
  exact ⟨found, hfound⟩

end AuditPlan

namespace Progress

variable {first second sheets rules : Nat}

theorem ofLastRule_le_ofSheet_add_one (hlt : first < second) (hsecond : second < sheets)
    (hrules : 0 < rules) : ofLastRule first sheets rules ≤ ofSheet second sheets + 1 := by
  have hnext : ofSheet (first + 1) sheets ≤ ofSheet second sheets :=
    ofSheet_mono (Nat.zero_lt_of_lt hsecond) hlt
  have hlast := ofRule_le_ofSheet_succ (hlt.trans hsecond) (Nat.sub_le rules 1) hrules
  rw [ofLastRule]
  omega

theorem ofLastRule_le_ofSheet (hexact : sheets ∣ 80 ∨ 160 < sheets) (hlt : first < second)
    (hsecond : second < sheets) (hrules : 0 < rules) :
    ofLastRule first sheets rules ≤ ofSheet second sheets := by
  have hsheets : 0 < sheets := Nat.zero_lt_of_lt hsecond
  rcases hexact with hdvd | hmany
  · calc ofLastRule first sheets rules ≤ ofSheet (first + 1) sheets :=
          ofRule_le_ofSheet_succ_of_dvd hdvd (hlt.trans hsecond) (Nat.sub_le rules 1) hrules
      _ ≤ ofSheet second sheets := ofSheet_mono hsheets hlt
  · calc ofLastRule first sheets rules ≤ ofSheet first sheets :=
          ofRule_le_start _ hmany (Nat.sub_le rules 1) hrules
      _ ≤ ofSheet second sheets := ofSheet_mono hsheets hlt.le

end Progress

namespace AuditPlan

open Progress

/-! ## Main statement -/

/-- An audit that neither a fatal fault of the file nor a name without a text ends reports progress
that falls by at most one percent.  It does not fall at all if and only if the last rule on a sheet
is never reported beyond the percentage at which a later sheet with rules starts; so it is if the
count of sheets divides the percentages that they share, or if there are more than twice as many
sheets. -/
theorem progress_of_audit (plan : AuditPlan) (path : Option String) (sheets : List SheetSource)
    (hnames : plan.NamesShown sheets) (stream : SheetSource → ChunkStream FileError)
    (hstream : ∀ sheet ∈ sheets, ∀ fault ∈ (stream sheet).fault?, fault.isFatal = false) :
    let audit := plan.auditOpened path (.ok sheets) stream
    let ordered := audit.reports.Pairwise fun earlier later => earlier.percent ≤ later.percent
    (∃ outcome, audit.result = .ok outcome) ∧
      (audit.reports.Pairwise fun earlier later => earlier.percent ≤ later.percent + 1) ∧
      (ordered ↔ ∀ first second (_ : first < second) (_ : second < sheets.length),
        plan.rulesOn sheets[first] ≠ [] → plan.rulesOn sheets[second] ≠ [] →
          ofLastRule first sheets.length (plan.rulesOn sheets[first]).length ≤
            ofSheet second sheets.length) ∧
      (sheets.length ∣ 80 ∨ 160 < sheets.length → ordered) := by
  intro audit ordered
  obtain ⟨found, hfound⟩ := plan.exists_found hstream
  have hrules := fun sheet hsheet rule (_ : rule ∈ plan.rulesOn sheet) => hfound sheet hsheet rule
  have hordered := pairwise_reports_iff hnames hrules path 0
  simp only [Nat.cast_zero, add_zero] at hordered
  have hfindings := auditSheets_result (fun _ => hnames.rulesFor_eq) hrules 0 sheets.length
  refine ⟨⟨_, auditOpened_result hfindings path⟩, ?_, hordered, ?_⟩
  · rw [pairwise_reports_iff hnames hrules path 1]
    intro first second hlt hsecond hfirst _
    exact ofLastRule_le_ofSheet_add_one hlt hsecond (List.length_pos_iff.mpr hfirst)
  · intro hexact
    refine hordered.mpr fun first second hlt hsecond hfirst _ => ?_
    exact ofLastRule_le_ofSheet hexact hlt hsecond (List.length_pos_iff.mpr hfirst)

theorem progress_of_audit_two_sheets :
    let rule : Rule := ⟨none, none, none, "required", "A1", "not_empty", "", .error⟩
    let plan : AuditPlan := ⟨[rule, rule], 1000, none, none⟩
    let sheets : List SheetSource := [⟨0, "One", "a.xlsx", .xlsx⟩, ⟨1, "Two", "a.xlsx", .xlsx⟩]
    let stream : SheetSource → ChunkStream FileError := fun _ => sheetStream 1000 [[.text "a"]]
    plan.NamesShown sheets ∧
      (∀ sheet ∈ sheets, ∀ fault ∈ (stream sheet).fault?, fault.isFatal = false) ∧
      (plan.auditOpened none (.ok sheets) stream).reports.Pairwise
        fun earlier later => earlier.percent ≤ later.percent := by
  intro rule plan sheets stream
  have hstream : ∀ sheet ∈ sheets, ∀ fault ∈ (stream sheet).fault?, fault.isFatal = false := by
    rintro sheet - fault ⟨⟩
  have hnames : plan.NamesShown sheets := by
    simp [NamesShown, plan, rule]
  have hdvd : sheets.length ∣ 80 := by decide
  exact ⟨hnames, hstream,
    (progress_of_audit plan none sheets hnames stream hstream).2.2.2 (.inl hdvd)⟩

/-- Progress is not always in order: the last of twenty-three rules on the fifth of nine sheets is
reported with 55 percent, and the next sheet starts at 54. -/
theorem progress_not_ordered :
    let rule (sheet : Int) : Rule :=
      ⟨none, none, some (.int sheet), "required", "A1", "not_empty", "", .error⟩
    let plan : AuditPlan := ⟨List.replicate 23 (rule 4) ++ [rule 5], 1000, none, none⟩
    let sheets : List SheetSource := (List.range 9).map fun index => ⟨index, "S", "s.xlsx", .xlsx⟩
    ¬ (plan.auditOpened none (.ok sheets) fun _ => sheetStream 1000 [[.text "x"]]).reports.Pairwise
        fun earlier later => earlier.percent ≤ later.percent := by
  intro rule plan sheets hordered
  have hstream : ∀ sheet ∈ sheets,
      ∀ fault ∈ (sheetStream 1000 [[.text "x"]]).fault?, fault.isFatal = false := by
    rintro sheet - fault ⟨⟩
  have hnames : plan.NamesShown sheets := by
    have hshown : ∀ sheet ∈ sheets, plan.rulesFor sheet = .ok (plan.rulesOn sheet) := by
      decide +kernel
    exact namesShown_iff.mpr fun sheet hsheet => ⟨_, hshown sheet hsheet⟩
  obtain ⟨found, hfound⟩ := plan.exists_found hstream
  have hrules := fun sheet hsheet rule (_ : rule ∈ plan.rulesOn sheet) => hfound sheet hsheet rule
  have hlast := (pairwise_reports_iff hnames hrules none 0).mp hordered 4 5 (by decide) (by decide)
    (by decide +kernel) (by decide +kernel)
  revert hlast
  decide +kernel

end AuditPlan

end SheetAudit
