import SheetAudit.Audit.RuleFindings
import SheetAudit.Proofs.Outcome

/-!
# Faults of a stream

A fault of the file that a rule comes to is the fault that breaks off the stream it is checked on,
and only a fatal one leaves the rule without findings.
-/

namespace SheetAudit

namespace Rule

open Outcome

variable {α β : Type} {fault? : Option FileError}

/-- A fault of the file that an outcome comes to is the one that breaks off the stream. -/
def FaultOnlyOf (fault? : Option FileError) (outcome : Except RuleFault α) : Prop :=
  ∀ fault, outcome = .error (.stream fault) → fault? = some fault

theorem FaultOnlyOf.ok (a : α) : FaultOnlyOf fault? (.ok a : Except RuleFault α) := by
  rintro fault ⟨⟩

theorem FaultOnlyOf.bind {outcome : Except RuleFault α} {next : α → Except RuleFault β}
    (houtcome : FaultOnlyOf fault? outcome) (hnext : ∀ a, FaultOnlyOf fault? (next a)) :
    FaultOnlyOf fault? (outcome >>= next) := by
  intro fault herror
  rcases bind_eq_error_iff.mp herror with hfirst | ⟨a, -, hsecond⟩
  · exact houtcome fault hfirst
  · exact hnext a fault hsecond

theorem FaultOnlyOf.field (outcome : Except FieldError α) :
    FaultOnlyOf fault? (outcome.mapError RuleFault.field) := by
  cases outcome <;> rintro fault ⟨⟩

theorem FaultOnlyOf.check (outcome : Except CheckError α) :
    FaultOnlyOf fault? (outcome.mapError RuleFault.check) := by
  cases outcome <;> rintro fault ⟨⟩

variable (rule : Rule) (submissionId : Option Int)

theorem faultOnlyOf_checkEach (value : Address → Cell) (addresses : List Address) :
    FaultOnlyOf fault? (rule.checkEach submissionId value addresses) := by
  induction addresses with
  | nil => exact .ok []
  | cons address addresses ih =>
      exact (FaultOnlyOf.check _).bind fun finding => ih.bind fun findings => .ok _

theorem faultOnlyOf_findingsBelow (field : Field) (headers? : Option Row) (lastRow : Int) :
    FaultOnlyOf fault? (rule.findingsBelow field submissionId headers? lastRow) := by
  unfold findingsBelow
  split
  · split
    · rintro fault ⟨⟩
    · exact .ok []
  · exact (FaultOnlyOf.field _).bind fun cells => rule.faultOnlyOf_checkEach submissionId _ _

theorem faultOnlyOf_findingsFrom (field : Field) (headers? : Option Row) (lastRow : Int)
    (chunks : List RowChunk) :
    FaultOnlyOf fault? (rule.findingsFrom field submissionId fault? headers? lastRow chunks) := by
  induction chunks generalizing headers? lastRow with
  | nil =>
      cases fault? with
      | none => exact rule.faultOnlyOf_findingsBelow submissionId field headers? lastRow
      | some fault =>
          rintro _ ⟨⟩
          rfl
  | cons chunk chunks ih =>
      rw [findingsFrom]
      refine (FaultOnlyOf.field _).bind fun cells => ?_
      refine (rule.faultOnlyOf_checkEach submissionId _ _).bind fun found => ?_
      split
      · exact (rule.faultOnlyOf_findingsBelow submissionId field _ _).bind fun others => .ok _
      · exact (ih _ _).bind fun others => .ok _

theorem faultOnlyOf_chunksThrough (row : Int) (chunks : List RowChunk) :
    FaultOnlyOf fault? ((chunksThrough row fault? chunks).mapError RuleFault.stream) := by
  induction chunks with
  | nil =>
      cases fault? with
      | none => exact .ok []
      | some fault =>
          rintro _ ⟨⟩
          rfl
  | cons chunk chunks ih =>
      rw [chunksThrough]
      split
      · exact .ok _
      · cases hothers : chunksThrough row fault? chunks with
        | ok others => exact .ok _
        | error e =>
            rw [hothers] at ih
            exact ih

theorem faultOnlyOf_reachFindings (size : Nat) (stream : ChunkStream FileError) :
    FaultOnlyOf stream.fault? (rule.reachFindings size submissionId stream) := by
  refine (FaultOnlyOf.field _).bind fun field => ?_
  split
  · split
    · exact (faultOnlyOf_chunksThrough _ _).bind fun chunks =>
        rule.faultOnlyOf_checkEach submissionId _ _
    · exact rule.faultOnlyOf_findingsFrom submissionId field _ _ _
  · exact rule.faultOnlyOf_findingsFrom submissionId field _ _ _

/-- A rule has findings on every stream that no fatal fault breaks off. -/
theorem exists_findings_of_not_fatal (size : Nat) {stream : ChunkStream FileError}
    (hfault : ∀ fault ∈ stream.fault?, fault.isFatal = false) :
    ∃ found, rule.findings size submissionId stream = .ok found := by
  unfold findings
  split
  · exact ⟨_, rfl⟩
  · next fault herror =>
    have hcause := rule.faultOnlyOf_reachFindings submissionId size stream fault herror
    rw [hfault fault hcause]
    exact ⟨_, rfl⟩
  · exact ⟨_, rfl⟩

end Rule

end SheetAudit
