import SheetAudit.Proofs.AuditStatus
import SheetAudit.Proofs.ColumnFindings
import SheetAudit.Proofs.StreamFaults

/-!
# Streams that break off

A stream may deliver some chunks and then break off with a fault that no rule can go on after.  A
cell or a range whose last row was delivered does not come to the fault.  Any other rule does,
unless one of its checks goes wrong before: checks are made while the stream goes on, except for
the cells that are collected first.  A fault that a rule comes to ends the audit.
-/

namespace SheetAudit

open Outcome

/-- Chunks of rows that follow each other from the top of a sheet, and then a fault. -/
def brokenStream (parts : List (List Row)) (fault : FileError) : ChunkStream FileError :=
  ⟨numberedChunks 0 parts, some fault⟩

/-- A check of a rule goes wrong on a cell that lies in an area and in the rows of a sheet. -/
def Rule.FailsOn (rule : Rule) (submissionId : Option Int) (rows : List Row) (area : Rectangle) :
    Prop :=
  ∃ address ∈ area.rowMajor, address.row < rows.length ∧
    ∃ e, rule.check (some address) (cellOf rows address) submissionId = .error e

/-! ## Chunks up to a row -/

theorem chunksThrough_of_reached {ε : Type} {last : Int} {chunks : List RowChunk}
    (hreached : ∃ chunk ∈ chunks, last ≤ chunk.stop) (fault? : Option ε) :
    chunksThrough last fault? chunks = chunksThrough last none chunks := by
  induction chunks with
  | nil => simp at hreached
  | cons chunk chunks ih =>
      rw [chunksThrough, chunksThrough]
      by_cases hhere : last ≤ chunk.stop
      · rw [if_pos hhere, if_pos hhere]
      · have hlater : ∃ other ∈ chunks, last ≤ other.stop := by simpa [hhere] using hreached
        rw [if_neg hhere, if_neg hhere, ih hlater]

theorem chunksThrough_of_not_reached {ε : Type} {last : Int} {chunks : List RowChunk}
    (hmissed : ∀ chunk ∈ chunks, chunk.stop < last) (fault : ε) :
    chunksThrough last (some fault) chunks = .error fault := by
  induction chunks with
  | nil => rfl
  | cons chunk chunks ih =>
      have hhere : ¬ last ≤ chunk.stop := not_le.mpr (hmissed chunk (by simp))
      rw [chunksThrough, if_neg hhere, ih fun other hother => hmissed other (by simp [hother])]
      rfl

namespace Rule

variable {rule : Rule} {submissionId : Option Int} {field : Field} {area : Rectangle}
variable {parts : List (List Row)} {fault : FileError}

/-! ## Chunk by chunk -/

/-- After the last row of a field the rest of the stream is not looked at. -/
theorem findingsFrom_of_reached {chunks : List RowChunk}
    (hreached : ∃ chunk ∈ chunks, field.endsBy chunk.stop = true) (fault? : Option FileError)
    (headers? : Option Row) (row : Int) :
    rule.findingsFrom field submissionId fault? headers? row chunks =
      rule.findingsFrom field submissionId none headers? row chunks := by
  induction chunks generalizing headers? row with
  | nil => simp at hreached
  | cons chunk chunks ih =>
      rw [findingsFrom, findingsFrom]
      by_cases hhere : field.endsBy chunk.stop = true
      · simp only [if_pos hhere]
      · have hlater : ∃ other ∈ chunks, field.endsBy other.stop = true := by
          simpa [hhere] using hreached
        simp only [if_neg hhere, ih hlater]

/-- The headers are those of the first row that is delivered. -/
theorem findingsFrom_headers (hparts : ∀ part ∈ parts, part ≠ []) (start : Nat) (row : Int) :
    rule.findingsFrom field submissionId (some fault) none row (numberedChunks start parts) =
      rule.findingsFrom field submissionId (some fault) (some (parts.flatten.head?.getD [])) row
        (numberedChunks start parts) := by
  cases parts with
  | nil => rfl
  | cons part parts =>
      obtain ⟨header, below, rfl⟩ := List.exists_cons_of_ne_nil (hparts part (by simp))
      simp [numberedChunks, findingsFrom]

/-- A rectangle needs no headers. -/
theorem findingsFrom_of_rectangle (harea : field.rectangle? = some area)
    (fault? : Option FileError) (headers? headers?' : Option Row) (row : Int)
    (chunks : List RowChunk) :
    rule.findingsFrom field submissionId fault? headers? row chunks =
      rule.findingsFrom field submissionId fault? headers?' row chunks := by
  induction chunks generalizing headers? headers?' row with
  | nil =>
      cases fault? with
      | some fault => rfl
      | none =>
          simp only [findingsFrom]
          rw [rule.findingsBelow_of_rectangle harea, rule.findingsBelow_of_rectangle harea]
  | cons chunk chunks ih =>
      rw [findingsFrom, findingsFrom, Field.resolve_of_rectangle harea,
        Field.resolve_of_rectangle harea, rule.findingsBelow_of_rectangle harea,
        rule.findingsBelow_of_rectangle harea, ih _ (some (headers?'.getD _))]

/-- Before the last row of a field all cells that are delivered are checked, and then the fault is
met.  The induction is on the chunks, as for a sheet that can be read to its end. -/
theorem findingsFrom_of_not_reached (rule : Rule) (submissionId : Option Int) (fault : FileError)
    (area : Rectangle) {headers : Row} {height : Int} (hcol : 0 ≤ area.firstCol)
    (hresolve : ∀ {first stop : Int}, stop ≤ height →
      field.resolve headers (.span first stop) = .ok (area.clip (.span first stop)))
    (hlast : area.lastRow < height) (hparts : ∀ part ∈ parts, part ≠ []) (start : Nat)
    (hheight : start + parts.flatten.length = height)
    (hmissed : ∀ chunk ∈ numberedChunks start parts, field.endsBy chunk.stop = false) (row : Int) :
    rule.findingsFrom field submissionId (some fault) (some headers) row
        (numberedChunks start parts) =
      (rule.checkEach submissionId
          (fun address => cellOf parts.flatten ⟨address.row - start, address.col⟩)
          (area.clip ⟨start, none⟩).rowMajor >>= fun _ => .error (.stream fault)) := by
  induction parts generalizing start row with
  | nil =>
      have hnone : (area.clip ⟨start, none⟩).rowMajor = [] := by
        apply Rectangle.rowMajor_eq_nil
        simp only [List.flatten_nil, List.length_nil] at hheight
        simp only [Rectangle.clip]
        omega
      rw [hnone]
      rfl
  | cons part parts ih =>
      simp only [List.flatten_cons, List.length_append] at hheight
      simp only [numberedChunks, List.forall_mem_cons] at hmissed
      let next : Nat := start + part.length
      let chunk : RowChunk := ⟨start, part⟩
      have hstop : chunk.stop + 1 = next := by simp [RowChunk.stop, chunk, next]
      have hcells : field.resolve headers (.span chunk.start (chunk.stop + 1)) =
          .ok (area.clip (.span start next)) := by
        rw [hstop]
        exact hresolve (by simp only [next]; push_cast; omega)
      have hothers := ih (fun other hother => hparts other (by simp [hother])) next
        (by simp only [next]; push_cast; omega) hmissed.2 chunk.stop
      have hcut : (start : Int) ≤ next := by omega
      rw [List.flatten_cons, numberedChunks, findingsFrom, ← area.rowMajor_clip_append hcut,
        checkEach_append, ← checkEach_chunk hcol, ← checkEach_below_chunk]
      simp only [Option.getD_some]
      rw [hcells, hmissed.1]
      simp only [mapError_ok, ok_bind, Rectangle.cells_eq_rowMajor, Bool.false_eq_true, if_false]
      rw [hothers]
      simp only [bind_assoc, pure_bind, error_bind]
      rfl

/-! ## Checks that go wrong -/

theorem checkEach_of_failing {value : Address → Cell} {addresses : List Address}
    (hfails : ∃ address ∈ addresses, ∃ e,
      rule.check (some address) (value address) submissionId = .error e) :
    ∃ e, rule.checkEach submissionId value addresses = .error (.check e) := by
  rw [checkEach_eq_mapM]
  cases hchecks : addresses.mapM fun address =>
      rule.check (some address) (value address) submissionId with
  | error e => exact ⟨e, rfl⟩
  | ok findings =>
      obtain ⟨address, haddress, e, hfails⟩ := hfails
      obtain ⟨finding, _, hcheck⟩ := (mem_of_mapM_eq_ok hchecks).1 address haddress
      rw [hfails] at hcheck
      cases hcheck

theorem checkEach_of_not_failing {value : Address → Cell} {addresses : List Address}
    (hpasses : ¬ ∃ address ∈ addresses, ∃ e,
      rule.check (some address) (value address) submissionId = .error e) :
    ∃ findings, rule.checkEach submissionId value addresses = .ok findings := by
  have hchecks : ∀ address ∈ addresses, ∃ finding,
      rule.check (some address) (value address) submissionId = .ok finding := by
    intro address haddress
    cases hcheck : rule.check (some address) (value address) submissionId with
    | ok finding => exact ⟨finding, rfl⟩
    | error e => exact absurd ⟨address, haddress, e, hcheck⟩ hpasses
  obtain ⟨findings, hfindings⟩ := exists_mapM_ok hchecks
  rw [checkEach_eq_mapM, hfindings]
  exact ⟨findings, rfl⟩

theorem findings_of_fault {size : Nat} {stream : ChunkStream FileError}
    (hfatal : fault.isFatal = true)
    (hreach : rule.reachFindings size submissionId stream = .error (.stream fault)) :
    rule.findings size submissionId stream = .error fault := by
  unfold findings
  rw [hreach]
  simp [hfatal]

/-- Checks that are made before a fault is met: if one of them goes wrong the rule has one failed
finding, and otherwise it comes to the fault. -/
theorem findings_of_checks_then_fault {size : Nat} {stream : ChunkStream FileError}
    {rows : List Row} (hfatal : fault.isFatal = true)
    (hreach : rule.reachFindings size submissionId stream =
      (rule.checkEach submissionId (cellOf rows)
        (area.clip (.span 0 rows.length)).rowMajor >>= fun _ => .error (.stream fault)))
    (htop : 0 ≤ area.firstRow) :
    (rule.FailsOn submissionId rows area →
      rule.findings size submissionId stream = .ok [rule.failedFinding submissionId]) ∧
    (¬ rule.FailsOn submissionId rows area →
      rule.findings size submissionId stream = .error fault) := by
  have hfails : rule.FailsOn submissionId rows area ↔
      ∃ address ∈ (area.clip (.span 0 rows.length)).rowMajor, ∃ e,
        rule.check (some address) (cellOf rows address) submissionId = .error e := by
    apply exists_congr
    intro address
    rw [← and_assoc, Rectangle.mem_rowMajor, Rectangle.mem_rowMajor]
    apply and_congr_left
    intro _
    simp only [Rectangle.clip, RowWindow.span]
    omega
  -- only the rows that were delivered are checked before the fault
  rw [hfails]
  constructor
  · intro hfails
    obtain ⟨e, hchecks⟩ := checkEach_of_failing hfails
    rw [hchecks] at hreach
    unfold findings
    rw [hreach]
    rfl
  · intro hpasses
    obtain ⟨found, hchecks⟩ := checkEach_of_not_failing hpasses
    rw [hchecks] at hreach
    exact findings_of_fault hfatal hreach

/-! ## Cells and ranges -/

/-- A cell or a range whose last row was delivered has the findings of its cells. -/
theorem findings_of_reached (hread : Field.ofText rule.field = .ok field)
    (harea : field.rectangle? = some area) (hlimit : area.lastRow < rowLimit)
    (hparts : ∀ part ∈ parts, part ≠ [])
    (hreached : ∃ chunk ∈ numberedChunks 0 parts, area.lastRow ≤ chunk.stop) (size : Nat) :
    rule.findings size submissionId (brokenStream parts fault) =
      .ok (rule.findingsAt submissionId parts.flatten area.rowMajor) := by
  obtain ⟨htop, hcol⟩ := Field.inQuadrant_of_ofText hread harea
  apply findings_of_checkEach
  unfold reachFindings
  rw [hread]
  simp only [mapError_ok, ok_bind, harea]
  split
  · obtain ⟨chunks, hchunks, hvalues⟩ := exists_chunksThrough FileError area.lastRow 0 hparts
    have hthrough : (brokenStream parts fault).through area.lastRow = .ok chunks :=
      (chunksThrough_of_reached hreached _).trans hchunks
    unfold findingsDirect
    rw [hthrough, Rectangle.cells_eq_rowMajor]
    apply checkEach_congr
    intro address haddress
    obtain ⟨⟨hfirst, hlast⟩, hleft, _⟩ := Rectangle.mem_rowMajor.mp haddress
    rw [hvalues address (by omega) hlast (by omega)]
    simp only [Nat.cast_zero, sub_zero]
  · have hends : ∃ chunk ∈ numberedChunks 0 parts, field.endsBy chunk.stop = true := by
      obtain ⟨chunk, hchunk, hlast⟩ := hreached
      exact ⟨chunk, hchunk, by simpa [Field.endsBy, harea] using hlast⟩
    have hcovers := Field.covers_of_rectangle hread harea hlimit [] parts.flatten.length
    have hwhole := findingsFrom_eq_checkEach rule submissionId hcovers hparts 0
      (by rw [Nat.cast_zero, zero_add])
    have hclip : area.clip ⟨(0 : Nat), none⟩ = area := by
      simp only [Rectangle.clip, Nat.cast_zero, max_eq_left htop]
    rw [hclip] at hwhole
    simp only [Nat.cast_zero, zero_sub, sub_zero] at hwhole
    unfold findingsChunked brokenStream
    rw [findingsFrom_of_reached hends, findingsFrom_of_rectangle harea none none (some []), hwhole]

/-- A cell or a range whose last row was not delivered comes to the fault; if it is checked chunk by
chunk, it does so after the checks of the cells that were delivered. -/
theorem findings_of_not_reached (hread : Field.ofText rule.field = .ok field)
    (harea : field.rectangle? = some area) (hparts : ∀ part ∈ parts, part ≠ [])
    (hmissed : ∀ chunk ∈ numberedChunks 0 parts, chunk.stop < area.lastRow)
    (hfatal : fault.isFatal = true) (submissionId : Option Int) (size : Nat) :
    (size < area.count ∧ rule.FailsOn submissionId parts.flatten area →
      rule.findings size submissionId (brokenStream parts fault) =
        .ok [rule.failedFinding submissionId]) ∧
    (¬ (size < area.count ∧ rule.FailsOn submissionId parts.flatten area) →
      rule.findings size submissionId (brokenStream parts fault) = .error fault) := by
  obtain ⟨htop, hcol⟩ := Field.inQuadrant_of_ofText hread harea
  have hreach : rule.reachFindings size submissionId (brokenStream parts fault) =
      if area.count ≤ size then rule.findingsDirect area submissionId (brokenStream parts fault)
      else rule.findingsChunked field submissionId (brokenStream parts fault) := by
    unfold reachFindings
    rw [hread]
    simp only [mapError_ok, ok_bind, harea]
  by_cases hfits : area.count ≤ size
  · have hthrough : (brokenStream parts fault).through area.lastRow = .error fault :=
      chunksThrough_of_not_reached hmissed fault
    have hfault : rule.findings size submissionId (brokenStream parts fault) = .error fault := by
      apply findings_of_fault hfatal
      rw [hreach, if_pos hfits, findingsDirect, hthrough]
      rfl
    exact ⟨fun hlarge => absurd hlarge.1 (by omega), fun _ => hfault⟩
  · have hends : ∀ chunk ∈ numberedChunks 0 parts, field.endsBy chunk.stop = false := by
      intro chunk hchunk
      simpa [Field.endsBy, harea] using hmissed chunk hchunk
    let delivered : Rectangle := area.clip (.span 0 parts.flatten.length)
    have hresolve : ∀ {first stop : Int}, stop ≤ parts.flatten.length →
        field.resolve (parts.flatten.head?.getD []) (.span first stop) =
          .ok (delivered.clip (.span first stop)) := by
      intro first stop hstop
      rw [Field.resolve_of_rectangle harea]
      simp only [delivered, Rectangle.clip, RowWindow.span, Except.ok.injEq, Rectangle.mk.injEq,
        and_true]
      omega
    have hlast : delivered.lastRow < parts.flatten.length := by
      simp only [delivered, Rectangle.clip, RowWindow.span]
      omega
    have hchecks := findingsFrom_of_not_reached rule submissionId fault delivered hcol hresolve
      hlast hparts 0 (by rw [Nat.cast_zero, zero_add]) hends (-1)
    have hclip : delivered.clip ⟨(0 : Nat), none⟩ = delivered := by
      simp only [delivered, Rectangle.clip, RowWindow.span, Nat.cast_zero, max_assoc, max_self]
    rw [hclip] at hchecks
    simp only [Nat.cast_zero, sub_zero] at hchecks
    have hlarge : size < area.count := not_le.mp hfits
    simp only [hlarge, true_and]
    apply findings_of_checks_then_fault hfatal _ htop
    rw [hreach, if_neg hfits, ← hchecks]
    exact findingsFrom_headers hparts 0 (-1)

/-! ## Columns -/

theorem eq_nil_of_flatten_eq_nil (hparts : ∀ part ∈ parts, part ≠ [])
    (hrows : parts.flatten = []) : parts = [] := by
  cases parts with
  | nil => rfl
  | cons part others =>
      have hpart := List.flatten_eq_nil_iff.mp hrows part (by simp)
      exact absurd hpart (hparts part (by simp))

theorem reachFindings_of_column {name : String}
    (hread : Field.ofText rule.field = .ok (.column name))
    (submissionId : Option Int) (size : Nat) (stream : ChunkStream FileError) :
    rule.reachFindings size submissionId stream =
      rule.findingsChunked (.column name) submissionId stream := by
  unfold reachFindings
  rw [hread]
  rfl

theorem findings_of_column_at_once {name : String}
    (hread : Field.ofText rule.field = .ok (.column name)) (hfatal : fault.isFatal = true)
    (submissionId : Option Int) (size : Nat) :
    rule.findings size submissionId (brokenStream [] fault) = .error fault := by
  apply findings_of_fault hfatal
  rw [reachFindings_of_column hread]
  rfl

theorem findings_of_column_without_header {name : String}
    (hread : Field.ofText rule.field = .ok (.column name)) (hparts : ∀ part ∈ parts, part ≠ [])
    {header : Row} (hheader : header ∈ parts.flatten.head?)
    (hmissing : ∀ col, findColumn header name ≠ .ok (some col)) (submissionId : Option Int)
    (size : Nat) :
    rule.findings size submissionId (brokenStream parts fault) =
      .ok [rule.failedFinding submissionId] := by
  suffices hreach : ∃ e, rule.reachFindings size submissionId (brokenStream parts fault) =
      .error (.field e) by
    obtain ⟨e, he⟩ := hreach
    exact findings_of_field_error he
  rw [reachFindings_of_column hread, findingsChunked, brokenStream, findingsFrom_headers hparts,
    Option.mem_def.mp hheader]
  cases parts with
  | nil => cases hheader
  | cons part parts =>
      simp only [numberedChunks, findingsFrom, Option.getD_some, Field.resolve]
      cases hcolumn : findColumn header name with
      | error e => exact ⟨_, rfl⟩
      | ok col? =>
          cases col? with
          | none => exact ⟨_, rfl⟩
          | some col => exact absurd hcolumn (hmissing col)

/-- A column whose header was delivered comes to the fault after the checks of its cells that were
delivered. -/
theorem findings_of_column_with_header {name : String}
    (hread : Field.ofText rule.field = .ok (.column name)) (hparts : ∀ part ∈ parts, part ≠ [])
    {header : Row} (hheader : header ∈ parts.flatten.head?) {col : Nat}
    (hcolumn : findColumn header name = .ok (some col)) (hfatal : fault.isFatal = true)
    (submissionId : Option Int) (size : Nat) :
    (rule.FailsOn submissionId parts.flatten ⟨1, parts.flatten.length - 1, col, col⟩ →
      rule.findings size submissionId (brokenStream parts fault) =
        .ok [rule.failedFinding submissionId]) ∧
    (¬ rule.FailsOn submissionId parts.flatten ⟨1, parts.flatten.length - 1, col, col⟩ →
      rule.findings size submissionId (brokenStream parts fault) = .error fault) := by
  have hcovers := Field.covers_of_column hcolumn parts.flatten.length
  have hchecks := findingsFrom_of_not_reached rule submissionId fault
    ⟨1, parts.flatten.length - 1, col, col⟩ hcovers.fromLeft hcovers.resolve (by simp) hparts 0
    (by rw [Nat.cast_zero, zero_add]) (fun _ _ => rfl) (-1)
  have hclip : (⟨1, parts.flatten.length - 1, col, col⟩ : Rectangle).clip ⟨(0 : Nat), none⟩ =
      (⟨1, parts.flatten.length - 1, col, col⟩ : Rectangle).clip
        (.span 0 parts.flatten.length) := by
    simp [Rectangle.clip, RowWindow.span]
  rw [hclip] at hchecks
  simp only [Nat.cast_zero, sub_zero] at hchecks
  apply findings_of_checks_then_fault hfatal _ (by simp)
  rw [reachFindings_of_column hread, ← hchecks, findingsChunked, brokenStream,
    findingsFrom_headers hparts, Option.mem_def.mp hheader]
  rfl

/-! ## No other outcome -/

theorem outcome_of_rectangle (hread : Field.ofText rule.field = .ok field)
    (harea : field.rectangle? = some area) (hlimit : area.lastRow < rowLimit)
    (hparts : ∀ part ∈ parts, part ≠ []) (hfatal : fault.isFatal = true)
    (submissionId : Option Int) (size : Nat) :
    rule.findings size submissionId (brokenStream parts fault) = .error fault ∨
      rule.findings size submissionId (brokenStream parts fault) =
        .ok [rule.failedFinding submissionId] ∨
      rule.findings size submissionId (brokenStream parts fault) =
        .ok (rule.findingsAt submissionId parts.flatten area.rowMajor) := by
  by_cases hreached : ∃ chunk ∈ numberedChunks 0 parts, area.lastRow ≤ chunk.stop
  · exact .inr (.inr (findings_of_reached hread harea hlimit hparts hreached size))
  · push Not at hreached
    obtain ⟨hfails, hpasses⟩ :=
      findings_of_not_reached hread harea hparts hreached hfatal submissionId size
    by_cases hwrong : size < area.count ∧ rule.FailsOn submissionId parts.flatten area
    · exact .inr (.inl (hfails hwrong))
    · exact .inl (hpasses hwrong)

theorem outcome_of_column {name : String} (hread : Field.ofText rule.field = .ok (.column name))
    (hparts : ∀ part ∈ parts, part ≠ []) (hfatal : fault.isFatal = true)
    (submissionId : Option Int) (size : Nat) :
    rule.findings size submissionId (brokenStream parts fault) = .error fault ∨
      rule.findings size submissionId (brokenStream parts fault) =
        .ok [rule.failedFinding submissionId] := by
  cases hheader : parts.flatten.head? with
  | none =>
      obtain rfl := eq_nil_of_flatten_eq_nil hparts (List.head?_eq_none_iff.mp hheader)
      exact .inl (findings_of_column_at_once hread hfatal submissionId size)
  | some header =>
      by_cases hmissing : ∀ col, findColumn header name ≠ .ok (some col)
      · exact .inr
          (findings_of_column_without_header hread hparts hheader hmissing submissionId size)
      · push Not at hmissing
        obtain ⟨col, hcolumn⟩ := hmissing
        obtain ⟨hfails, hpasses⟩ :=
          findings_of_column_with_header hread hparts hheader hcolumn hfatal submissionId size
        by_cases hwrong :
            rule.FailsOn submissionId parts.flatten ⟨1, parts.flatten.length - 1, col, col⟩
        · exact .inr (hfails hwrong)
        · exact .inl (hpasses hwrong)

/-- The fault that a rule comes to on a stream, if it comes to one. -/
def fault? (rule : Rule) (size : Nat) (submissionId : Option Int)
    (stream : ChunkStream FileError) : Option FileError :=
  match rule.findings size submissionId stream with
  | .ok _ => none
  | .error fault => some fault

theorem fault?_of_ok {size : Nat} {stream : ChunkStream FileError} {findings : List Finding}
    (hfindings : rule.findings size submissionId stream = .ok findings) :
    rule.fault? size submissionId stream = none := by
  unfold fault?
  rw [hfindings]

theorem fault?_of_error {size : Nat} {stream : ChunkStream FileError}
    (hfindings : rule.findings size submissionId stream = .error fault) :
    rule.fault? size submissionId stream = some fault := by
  unfold fault?
  rw [hfindings]

end Rule

/-! ## Audits -/

theorem Reported.result_bind_eq_ok {α β : Type} {work : Reported α} {next : α → Reported β} {b : β}
    (hresult : (work >>= next).result = .ok b) :
    ∃ a, work.result = .ok a ∧ (next a).result = .ok b := by
  cases hwork : work.result with
  | error e =>
      rw [Reported.result_bind_of_error hwork] at hresult
      cases hresult
  | ok a =>
      rw [Reported.result_bind_of_ok hwork] at hresult
      exact ⟨a, rfl, hresult⟩

namespace AuditPlan

variable {plan : AuditPlan} {fault : FileError} {sheets : List SheetSource} {sheet : SheetSource}
variable {rules : List Rule}

/-! ### The first fault -/

/-- The faults that the rules of a plan come to on the sheets that they apply to, in the order in
which they are checked. -/
def faults (plan : AuditPlan) (stream : SheetSource → ChunkStream FileError)
    (sheets : List SheetSource) : List FileError :=
  sheets.flatMap fun sheet =>
    (plan.rulesOn sheet).filterMap (·.fault? plan.chunkSize plan.submissionId (stream sheet))

theorem auditRules_of_fault {stream : ChunkStream FileError}
    (hfault : (rules.filterMap (·.fault? plan.chunkSize plan.submissionId stream)).head? =
      some fault) (name : String) (start : Int) (place total sheets : Nat) :
    (plan.auditRules name stream start place total sheets rules).result =
      .error (.file fault) := by
  induction rules generalizing place with
  | nil => cases hfault
  | cons rule others ih =>
      rw [auditRules, Reported.result_bind_of_ok (a := ()) rfl]
      cases hfindings : rule.findings plan.chunkSize plan.submissionId stream with
      | error e =>
          simp only [List.filterMap_cons, Rule.fault?_of_error hfindings, List.head?_cons] at hfault
          cases hfault
          exact Reported.result_bind_of_error rfl _
      | ok findings =>
          simp only [List.filterMap_cons, Rule.fault?_of_ok hfindings] at hfault
          rw [Reported.result_bind_of_ok (a := findings)]
          · exact Reported.result_bind_of_error (ih hfault (place + 1)) _
          · rfl

theorem checkSheet_of_fault {stream : SheetSource → ChunkStream FileError}
    (hfault : (rules.filterMap
      (·.fault? plan.chunkSize plan.submissionId (stream sheet))).head? = some fault)
    (place sheets : Nat) :
    (plan.checkSheet stream place sheets sheet rules).result = .error (.file fault) := by
  unfold checkSheet
  split
  · next hnone =>
    rw [List.isEmpty_iff.mp hnone] at hfault
    cases hfault
  · rw [Reported.result_bind_of_ok (a := ()) rfl]
    exact auditRules_of_fault hfault _ _ _ _ _

/-- An audit of sheets ends with the first fault that a rule comes to. -/
theorem auditSheets_of_fault (hnames : plan.NamesShown sheets)
    {stream : SheetSource → ChunkStream FileError}
    (hfault : (plan.faults stream sheets).head? = some fault) (place total : Nat) :
    (plan.auditSheets stream place total sheets).result = .error (.file fault) := by
  induction sheets generalizing place with
  | nil => cases hfault
  | cons sheet others ih =>
      have hlater : plan.NamesShown others := fun other hother => hnames other (by simp [hother])
      rw [auditSheets, auditSheet_of_rules (hnames.rulesFor_eq (by simp))]
      rw [faults, List.flatMap_cons, List.head?_append] at hfault
      cases hhere : ((plan.rulesOn sheet).filterMap
          (·.fault? plan.chunkSize plan.submissionId (stream sheet))).head? with
      | some first =>
          rw [hhere] at hfault
          cases hfault
          exact Reported.result_bind_of_error (checkSheet_of_fault hhere place total) _
      | none =>
          rw [hhere] at hfault
          have hnone : ∀ rule ∈ plan.rulesOn sheet, ∃ findings,
              rule.findings plan.chunkSize plan.submissionId (stream sheet) = .ok findings := by
            intro rule hrule
            rw [List.head?_eq_none_iff, List.filterMap_eq_nil_iff] at hhere
            have hfree := hhere rule hrule
            cases hfindings :
                rule.findings plan.chunkSize plan.submissionId (stream sheet) with
            | ok findings => exact ⟨findings, rfl⟩
            | error e =>
                rw [Rule.fault?_of_error hfindings] at hfree
                cases hfree
          choose! found hfound using hnone
          rw [Reported.result_bind_of_ok (checkSheet_result hfound place total)]
          exact Reported.result_bind_of_error (ih hlater hfault (place + 1)) _

/-- A fault that some rule comes to is not before the first one. -/
theorem exists_first_fault (hnames : plan.NamesShown sheets)
    {stream : SheetSource → ChunkStream FileError} (hsheet : sheet ∈ sheets) {rule : Rule}
    (hrule : plan.Applies rule sheet)
    (hfindings : rule.findings plan.chunkSize plan.submissionId (stream sheet) = .error fault) :
    ∃ first, (plan.faults stream sheets).head? = some first := by
  have hmem : fault ∈ plan.faults stream sheets := by
    simp only [faults, List.mem_flatMap, List.mem_filterMap]
    exact ⟨sheet, hsheet, rule, (hnames.mem_rulesOn_iff hsheet).mpr hrule,
      Rule.fault?_of_error hfindings⟩
  cases hfaults : plan.faults stream sheets with
  | nil =>
      rw [hfaults] at hmem
      cases hmem
  | cons first others => exact ⟨first, rfl⟩

/-! ### No outcome -/

theorem exists_findings_of_auditRules {stream : ChunkStream FileError} {name : String}
    {start : Int} {place total sheets : Nat} {findings : List Finding}
    (hresult : (plan.auditRules name stream start place total sheets rules).result = .ok findings) :
    ∀ rule ∈ rules, ∃ found, rule.findings plan.chunkSize plan.submissionId stream = .ok found := by
  induction rules generalizing place findings with
  | nil => simp
  | cons rule others ih =>
      rw [auditRules, Reported.result_bind_of_ok (a := ()) rfl] at hresult
      obtain ⟨found, hfound, hresult⟩ := Reported.result_bind_eq_ok hresult
      obtain ⟨more, hmore, -⟩ := Reported.result_bind_eq_ok hresult
      rw [Reported.result_ofResult, mapError_eq_ok_iff] at hfound
      exact List.forall_mem_cons.mpr ⟨⟨found, hfound⟩, ih hmore⟩

theorem exists_findings_of_checkSheet {stream : SheetSource → ChunkStream FileError}
    {place sheets : Nat} {findings : List Finding}
    (hresult : (plan.checkSheet stream place sheets sheet rules).result = .ok findings) :
    ∀ rule ∈ rules, ∃ found,
      rule.findings plan.chunkSize plan.submissionId (stream sheet) = .ok found := by
  unfold checkSheet at hresult
  split at hresult
  · next hnone => simp [List.isEmpty_iff.mp hnone]
  · rw [Reported.result_bind_of_ok (a := ()) rfl] at hresult
    exact exists_findings_of_auditRules hresult

/-- If an audit of sheets has a result, so has each rule on the sheets that it applies to. -/
theorem exists_findings_of_auditSheets {stream : SheetSource → ChunkStream FileError}
    {place total : Nat} {findings : List Finding}
    (hresult : (plan.auditSheets stream place total sheets).result = .ok findings) :
    ∀ sheet ∈ sheets, ∀ rule, plan.Applies rule sheet → ∃ found,
      rule.findings plan.chunkSize plan.submissionId (stream sheet) = .ok found := by
  induction sheets generalizing place findings with
  | nil => simp
  | cons sheet others ih =>
      rw [auditSheets] at hresult
      obtain ⟨found, hfound, hresult⟩ := Reported.result_bind_eq_ok hresult
      obtain ⟨more, hmore, -⟩ := Reported.result_bind_eq_ok hresult
      obtain ⟨rules, hrules, hfound⟩ := Reported.result_bind_eq_ok hfound
      rw [Reported.result_ofResult, mapError_eq_ok_iff] at hrules
      refine List.forall_mem_cons.mpr ⟨?_, ih hmore⟩
      intro rule hrule
      exact exists_findings_of_checkSheet hfound rule ((mem_rulesFor_iff hrules).mpr hrule)

/-- A fault of a rule leaves an audit without an outcome, whatever the names of the sheets. -/
theorem auditOpened_ne_ok_of_fault {stream : SheetSource → ChunkStream FileError}
    (hsheet : sheet ∈ sheets) {rule : Rule} (hrule : plan.Applies rule sheet)
    (hfindings : rule.findings plan.chunkSize plan.submissionId (stream sheet) = .error fault)
    (path : Option String) (outcome : Outcome) :
    (plan.auditOpened path (.ok sheets) stream).result ≠ .ok outcome := by
  cases hresult : (plan.auditSheets stream 0 sheets.length sheets).result with
  | error e =>
      rw [auditOpened_of_error hresult path]
      exact nofun
  | ok findings =>
      obtain ⟨found, hfound⟩ := exists_findings_of_auditSheets hresult sheet hsheet rule hrule
      rw [hfindings] at hfound
      cases hfound

end AuditPlan

/-! ## Files that break off -/

theorem filter_numberedChunks_pieces {size : Nat} (hsize : 0 < size) (start : Nat)
    (rows : List Row) :
    (numberedChunks start (pieces size rows)).filter (·.rows.length == size) =
      numberedChunks start ((pieces size rows).filter (·.length == size)) := by
  induction rows using pieces_induction hsize generalizing start with
  | nil =>
      rw [pieces_nil]
      rfl
  | cut rows hrows ih =>
      rw [pieces_of_ne_nil hsize hrows, numberedChunks, List.filter_cons, List.filter_cons, ih]
      split
      · rw [numberedChunks]
      · next hshort =>
        -- A short piece is the last one.
        have hlast : rows.drop size = [] := by
          rw [List.drop_eq_nil_iff]
          rw [beq_iff_eq, List.length_take] at hshort
          omega
        rw [hlast, pieces_nil]
        rfl

/-- The chunks of rows that break off are the whole ones. -/
theorem chunked_of_fault {rows : RowStream FileError} {fault : FileError}
    (hfault : rows.fault? = some fault) {size : Nat} (hsize : 0 < size) :
    rows.chunked size =
      brokenStream ((pieces size rows.rows).filter (·.length == size)) fault := by
  rw [RowStream.chunked, hfault, brokenStream, ← filter_numberedChunks_pieces hsize]
  rfl

/-! ## Main statement -/

/-- What rules come to on a stream that breaks off with a fatal fault after some chunks.  A cell or
a range has the findings that it has on the delivered rows alone if its last row is among them;
otherwise it comes to the fault, or, if it has more cells than a chunk has rows, to one failed
finding if a check on a delivered cell goes wrong.  A column comes to the fault too, unless its
header is not found or a check on a delivered cell goes wrong.  In no case are there findings for
only a part of the cells.  A file whose rows break off gives such a stream, of the chunks that are
whole.  An audit has no outcome once one of its rules comes to a fault; if the names of its sheets
can be compared, it ends with the first such fault, and so does the audit of a file. -/
theorem findings_of_broken_stream {rule : Rule} {field : Field}
    (hread : Field.ofText rule.field = .ok field)
    (hlimit : ∀ area, field.rectangle? = some area → area.lastRow < rowLimit)
    {parts : List (List Row)} (hparts : ∀ part ∈ parts, part ≠ []) {fault : FileError}
    (hfatal : fault.isFatal = true) (submissionId : Option Int) (size : Nat) :
    let stream := brokenStream parts fault
    let rows := parts.flatten
    let findings := rule.findings size submissionId stream
    let failed := [rule.failedFinding submissionId]
    (∀ area, field.rectangle? = some area →
      ((∃ chunk ∈ stream.chunks, area.lastRow ≤ chunk.stop) → ∀ size', 0 < size' →
        findings = rule.findings size' submissionId (sheetStream size' rows)) ∧
      ((∀ chunk ∈ stream.chunks, chunk.stop < area.lastRow) →
        (size < area.count ∧ rule.FailsOn submissionId rows area → findings = .ok failed) ∧
        (¬ (size < area.count ∧ rule.FailsOn submissionId rows area) →
          findings = .error fault))) ∧
    (∀ name, field = .column name →
      (rows = [] → findings = .error fault) ∧
      ∀ header ∈ rows.head?,
        ((∀ col, findColumn header name ≠ .ok (some col)) → findings = .ok failed) ∧
        ∀ col, findColumn header name = .ok (some col) →
          (rule.FailsOn submissionId rows ⟨1, rows.length - 1, col, col⟩ →
            findings = .ok failed) ∧
          (¬ rule.FailsOn submissionId rows ⟨1, rows.length - 1, col, col⟩ →
            findings = .error fault)) ∧
    (findings = .error fault ∨ findings = .ok failed ∨
      ∃ area, field.rectangle? = some area ∧
        findings = .ok (rule.findingsAt submissionId rows area.rowMajor)) ∧
    (∀ (folder : Folder) (sheet : SheetSource), (folder.rowsOf sheet).fault? = some fault →
      0 < size → (pieces size (folder.rowsOf sheet).rows).filter (·.length == size) = parts →
      (folder.rowsOf sheet).chunked size = stream) ∧
    ∀ (plan : AuditPlan) (path : Option String) (sheets : List SheetSource)
      (streams : SheetSource → ChunkStream FileError), ∀ sheet ∈ sheets, ∀ rule,
      plan.Applies rule sheet → ∀ fault,
      rule.findings plan.chunkSize plan.submissionId (streams sheet) = .error fault →
      let audit := plan.auditOpened path (.ok sheets) streams
      (∀ outcome, audit.result ≠ .ok outcome) ∧
      (plan.NamesShown sheets → ∃ first, (plan.faults streams sheets).head? = some first ∧
        audit.result = .error (.file first)) ∧
      ∀ folder : Folder, folder.openSheets path = .ok sheets →
        (∀ sheet ∈ sheets, streams sheet = (folder.rowsOf sheet).chunked plan.chunkSize) →
        plan.audit folder path = audit := by
  intro stream rows findings failed
  refine ⟨?_, ?_, ?_, ?_, ?_⟩
  · intro area harea
    refine ⟨?_, fun hmissed =>
      Rule.findings_of_not_reached hread harea hparts hmissed hfatal submissionId size⟩
    intro hreached size' hsize'
    have hwhole : rule.findings size' submissionId (sheetStream size' rows) =
        .ok (rule.findingsAt submissionId rows area.rowMajor) :=
      Rule.findings_eq_findingsAt_of_rectangle hread harea (hlimit area harea) rows hsize'
    exact (Rule.findings_of_reached hread harea (hlimit area harea) hparts hreached size).trans
      hwhole.symm
  · rintro name rfl
    constructor
    · intro hrows
      obtain rfl := Rule.eq_nil_of_flatten_eq_nil hparts hrows
      exact Rule.findings_of_column_at_once hread hfatal submissionId size
    · intro header hheader
      exact ⟨fun hmissing => Rule.findings_of_column_without_header hread hparts hheader hmissing
          submissionId size,
        fun col hcolumn => Rule.findings_of_column_with_header hread hparts hheader hcolumn hfatal
          submissionId size⟩
  · cases harea : field.rectangle? with
    | some area =>
        have houtcome := Rule.outcome_of_rectangle hread harea (hlimit area harea) hparts hfatal
          submissionId size
        exact houtcome.imp_right (Or.imp_right fun hfound => ⟨area, rfl, hfound⟩)
    | none =>
        obtain ⟨name, rfl⟩ : ∃ name, field = .column name := by
          cases field with
          | column name => exact ⟨name, rfl⟩
          | cell raw address => cases harea
          | range raw start stop => cases harea
        have houtcome := Rule.outcome_of_column hread hparts hfatal submissionId size
        exact houtcome.imp_right .inl
  · rintro folder sheet hfault hsize rfl
    exact chunked_of_fault hfault hsize
  · intro plan path sheets streams sheet hsheet rule hrule fault hfindings audit
    refine ⟨AuditPlan.auditOpened_ne_ok_of_fault hsheet hrule hfindings path, ?_,
      fun folder hopen hstreams => AuditPlan.audit_eq_auditOpened hopen hstreams⟩
    intro hnames
    obtain ⟨first, hfirst⟩ := AuditPlan.exists_first_fault hnames hsheet hrule hfindings
    have haudit := AuditPlan.auditSheets_of_fault hnames hfirst 0 sheets.length
    exact ⟨first, hfirst, AuditPlan.auditOpened_of_error haudit path⟩

theorem findings_of_broken_stream_after_two_rows :
    let rule : Rule := ⟨none, none, none, "required", "A1:A3", "not_empty", "missing", .error⟩
    let fault : FileError := .feed ⟨.fatal, "gone"⟩
    rule.findings 100 none (brokenStream [[[.text "x"]], [[.text "y"]]] fault) = .error fault := by
  intro rule fault
  have hread : Field.ofText rule.field = .ok (.range rule.field ⟨0, 0⟩ ⟨2, 0⟩) := by
    decide +kernel
  have hlimit : ∀ area, (Field.range rule.field ⟨0, 0⟩ ⟨2, 0⟩).rectangle? = some area →
      area.lastRow < rowLimit := by
    rintro _ ⟨⟩
    decide
  have hparts : ∀ part ∈ ([[[.text "x"]], [[.text "y"]]] : List (List Row)), part ≠ [] := by
    decide
  have hfatal : fault.isFatal = true := rfl
  obtain ⟨hareas, -⟩ := findings_of_broken_stream hread hlimit hparts hfatal none 100
  have hmissed := (hareas _ rfl).2 (by decide)
  exact hmissed.2 fun hwrong => absurd hwrong.1 (by decide)

end SheetAudit
