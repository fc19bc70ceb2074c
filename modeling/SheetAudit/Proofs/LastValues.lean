import Mathlib.Tactic
import SheetAudit.Proofs.PlainTexts
import SheetAudit.RuleText

/-!
# The last line of a key counts

Of all lines that give a key a value the last one decides, even if its value is empty or names
nothing.  So a block drafts the rule that its last lines describe, and lines may be put in and moved
about as long as every key keeps its lines and their order.
-/

namespace SheetAudit
namespace RuleText

open Text

/-- A line gives a key a value: trimmed, it is no comment, and its first colon stands between the
word of the key, in letters of any case, and the value. -/
def Assigns (line : String) (key : Key) (value : String) : Prop :=
  ∃ word rest, trim line = word ++ ":" ++ rest ∧ ':' ∉ word.toList ∧
    (trim line).toList.head? ≠ some '#' ∧ upper (trim word) = key.text ∧ trim rest = value

/-- The value of a key in a block: that of the last line which gives it one. -/
def LastValue (key : Key) (lines : List String) (value : String) : Prop :=
  ∃ before line after, lines = before ++ line :: after ∧ Assigns line key value ∧
    ∀ later ∈ after, ∀ other, ¬ Assigns later key other

/-- A line that gives no key a value. -/
def Ignored (line : String) : Prop := ∀ key value, ¬ Assigns line key value

/-- The severity of a rule: the one that the severity line names, otherwise that of an error. -/
def SeverityIs (lines : List String) (severity : Severity) : Prop :=
  LastValue .severity lines severity.text ∨
    severity = .error ∧ ∀ named : Severity, ¬ LastValue .severity lines named.text

/-- A draft says what the last lines of a block say. -/
structure Draft.ReadFrom (lines : List String) (draft : Draft) : Prop where
  field : LastValue .field lines draft.field
  field_ne : draft.field ≠ ""
  type : LastValue .rule lines draft.type.text
  condition : LastValue .condition lines draft.condition
  condition_ne : draft.condition ≠ ""
  error : LastValue .error lines draft.errorMessage
  error_ne : draft.errorMessage ≠ ""
  severity : SeverityIs lines draft.severity

variable {line : String} {lines : List String} {key : Key} {value : String}

/-! ## One line -/

theorem entry?_of_notMem (hcolon : ':' ∉ trimChars line.toList) : entry? line = none := by
  unfold entry?
  simp only [dropWhile_ne_of_notMem hcolon]
  split <;> simp_all

theorem entry?_of_colon {word rest : List Char} (hword : ':' ∉ word)
    (hline : trimChars line.toList = word ++ ':' :: rest) :
    entry? line = if (trimChars line.toList).head? = some '#' then none
      else (Key.ofText? (upper (trim (String.ofList word)))).map fun key =>
        (key, trim (String.ofList rest)) := by
  unfold entry?
  simp only [hline, dropWhile_ne_append hword, takeWhile_ne_append hword]
  cases word with
  | nil => rfl
  | cons first word => simp

theorem entry?_eq_some_iff : entry? line = some (key, value) ↔ Assigns line key value := by
  constructor
  · intro hentry
    by_cases hcolon : ':' ∈ trimChars line.toList
    · obtain ⟨word, rest, hline, hword⟩ := List.eq_append_cons_of_mem hcolon
      rw [entry?_of_colon hword hline] at hentry
      split at hentry
      · cases hentry
      · next hcomment =>
        obtain ⟨found, hfound, hsame⟩ := Option.map_eq_some_iff.mp hentry
        cases hsame
        refine ⟨String.ofList word, String.ofList rest, ?_, by simpa using hword,
          by simpa [trim] using hcomment, Key.ofText?_eq_some_iff.mp hfound, rfl⟩
        apply String.toList_inj.mp
        simpa [trim] using hline
    · rw [entry?_of_notMem hcolon] at hentry
      cases hentry
  · rintro ⟨word, rest, hline, hword, hcomment, hkey, rfl⟩
    have hchars : trimChars line.toList = word.toList ++ ':' :: rest.toList := by
      simpa [trim] using congrArg String.toList hline
    have hbody : (trimChars line.toList).head? ≠ some '#' := by simpa [trim] using hcomment
    rw [entry?_of_colon hword hchars, if_neg hbody, String.ofList_toList, String.ofList_toList,
      Key.ofText?_eq_some_iff.mpr hkey]
    rfl

theorem value?_singleton : value? key [line] = some value ↔ Assigns line key value := by
  rw [← entry?_eq_some_iff]
  cases hentry : entry? line with
  | none => simp [value?, hentry]
  | some entry =>
      obtain ⟨found, given⟩ := entry
      by_cases hkey : found = key <;> simp [value?, hentry, hkey]

/-! ## Many lines -/

theorem value?_cons (key : Key) (line : String) (lines : List String) :
    value? key (line :: lines) = (value? key lines).or (value? key [line]) := by
  rw [value?, value?]
  cases value? key lines <;> rfl

theorem value?_append (key : Key) (above below : List String) :
    value? key (above ++ below) = (value? key below).or (value? key above) := by
  induction above with
  | nil => simp [value?]
  | cons line above ih => rw [List.cons_append, value?_cons, ih, Option.or_assoc, ← value?_cons]

theorem value?_eq_none_iff :
    value? key lines = none ↔ ∀ line ∈ lines, ∀ value, ¬ Assigns line key value := by
  induction lines with
  | nil => simp [value?]
  | cons line lines ih =>
      have hline : value? key [line] = none ↔ ∀ value, ¬ Assigns line key value := by
        simp only [← value?_singleton, Option.eq_none_iff_forall_ne_some, ne_eq]
      rw [value?_cons, Option.or_eq_none_iff, ih, hline, List.forall_mem_cons, and_comm]

theorem value?_eq_some_iff : value? key lines = some value ↔ LastValue key lines value := by
  constructor
  · intro hvalue
    induction lines with
    | nil => cases hvalue
    | cons line lines ih =>
        -- a value given below hides the one that this line gives
        rw [value?_cons, Option.or_eq_some_iff] at hvalue
        rcases hvalue with hbelow | ⟨hnone, hline⟩
        · obtain ⟨before, last, after, rfl, hlast⟩ := ih hbelow
          exact ⟨line :: before, last, after, rfl, hlast⟩
        · exact ⟨[], line, lines, rfl, value?_singleton.mp hline, value?_eq_none_iff.mp hnone⟩
  · rintro ⟨before, last, after, rfl, hlast, hafter⟩
    rw [value?_append, value?_cons, value?_eq_none_iff.mpr hafter, value?_singleton.mpr hlast]
    rfl

/-! ## The rule of a block -/

theorem filled?_eq_some_iff :
    filled? key lines = some value ↔ LastValue key lines value ∧ value ≠ "" := by
  rw [filled?, Option.filter_eq_some_iff, value?_eq_some_iff]
  simp

theorem severityIs_iff {severity : Severity} :
    ((value? .severity lines).bind Severity.ofText?).getD .error = severity ↔
      SeverityIs lines severity := by
  have hnamed : ∀ named : Severity, (value? .severity lines).bind Severity.ofText? = some named ↔
      LastValue .severity lines named.text := by
    intro named
    rw [Option.bind_eq_some_iff]
    simp only [Severity.ofText?_eq_some_iff, exists_eq_right]
    exact value?_eq_some_iff
  cases hread : (value? .severity lines).bind Severity.ofText? with
  | none =>
      have hunnamed : ∀ named : Severity, ¬ LastValue .severity lines named.text := by
        intro named hlast
        rw [← hnamed, hread] at hlast
        cases hlast
      constructor
      · rintro rfl
        exact .inr ⟨rfl, hunnamed⟩
      · rintro (hlast | ⟨rfl, -⟩)
        · exact (hunnamed severity hlast).elim
        · rfl
  | some found =>
      have hfound := (hnamed found).mp hread
      constructor
      · rintro rfl
        exact .inl hfound
      · rintro (hlast | ⟨-, hunnamed⟩)
        · exact Option.some.inj (hread.symm.trans ((hnamed severity).mpr hlast))
        · exact (hunnamed found hfound).elim

theorem Draft.ofLines?_eq_some_iff {draft : Draft} :
    Draft.ofLines? lines = some draft ↔ draft.ReadFrom lines := by
  constructor
  · intro hread
    obtain ⟨field, hfield, hread⟩ := Option.bind_eq_some_iff.mp hread
    obtain ⟨type, htype, hread⟩ := Option.bind_eq_some_iff.mp hread
    obtain ⟨condition, hcondition, hread⟩ := Option.bind_eq_some_iff.mp hread
    obtain ⟨message, herror, hread⟩ := Option.bind_eq_some_iff.mp hread
    cases hread
    rw [RuleType.bind_ofText?_eq_some_iff] at htype
    rw [filled?_eq_some_iff] at hfield htype hcondition herror
    exact ⟨hfield.1, hfield.2, htype.1, hcondition.1, hcondition.2, herror.1, herror.2,
      severityIs_iff.mp rfl⟩
  · intro hread
    have hfield := filled?_eq_some_iff.mpr ⟨hread.field, hread.field_ne⟩
    have hcondition := filled?_eq_some_iff.mpr ⟨hread.condition, hread.condition_ne⟩
    have herror := filled?_eq_some_iff.mpr ⟨hread.error, hread.error_ne⟩
    have htype : (filled? .rule lines).bind RuleType.ofText? = some draft.type := by
      rw [RuleType.bind_ofText?_eq_some_iff, filled?_eq_some_iff]
      exact ⟨hread.type, by cases draft.type <;> decide⟩
    rw [ofLines?, hfield, htype, hcondition, herror, severityIs_iff.mpr hread.severity]
    rfl

/-- A block drafts a rule if the lines of four keys do their part, whatever its severity line. -/
theorem Draft.exists_readFrom_iff :
    (∃ draft : Draft, draft.ReadFrom lines) ↔
      (∃ field ≠ "", LastValue .field lines field) ∧
        (∃ type : RuleType, LastValue .rule lines type.text) ∧
        (∃ condition ≠ "", LastValue .condition lines condition) ∧
        ∃ message ≠ "", LastValue .error lines message := by
  constructor
  · rintro ⟨draft, hread⟩
    exact ⟨⟨_, hread.field_ne, hread.field⟩, ⟨_, hread.type⟩,
      ⟨_, hread.condition_ne, hread.condition⟩, ⟨_, hread.error_ne, hread.error⟩⟩
  · rintro ⟨⟨field, hfieldNe, hfield⟩, ⟨type, htype⟩, ⟨condition, hconditionNe, hcondition⟩,
      ⟨message, herrorNe, herror⟩⟩
    exact ⟨⟨type, field, condition, message, _⟩, hfield, hfieldNe, htype, hcondition, hconditionNe,
      herror, herrorNe, severityIs_iff.mp rfl⟩

/-! ## Lines put in and moved about -/

instance (line : String) (key : Key) : Decidable (∃ value, Assigns line key value) :=
  decidable_of_iff ((value? key [line]).isSome = true) (by
    simp only [Option.isSome_iff_exists, value?_singleton])

/-- The lines of a block that give a key a value. -/
def linesOf (key : Key) (lines : List String) : List String :=
  lines.filter fun line => ∃ value, Assigns line key value

theorem value?_linesOf (key : Key) (lines : List String) :
    value? key (linesOf key lines) = value? key lines := by
  induction lines with
  | nil => rfl
  | cons line lines ih =>
      unfold linesOf at ih ⊢
      rw [value?_cons]
      by_cases hline : ∃ value, Assigns line key value
      · rw [List.filter_cons_of_pos (by simpa using hline), value?_cons, ih]
      · have hnone : value? key [line] = none := by
          rw [value?_eq_none_iff, List.forall_mem_singleton]
          exact not_exists.mp hline
        rw [List.filter_cons_of_neg (by simpa using hline), ih, hnone, Option.or_none]

theorem Draft.ofLines?_congr {others : List String}
    (hlines : ∀ key, linesOf key others = linesOf key lines) :
    Draft.ofLines? others = Draft.ofLines? lines := by
  have hvalue : ∀ key, value? key others = value? key lines := by
    intro key
    rw [← value?_linesOf key others, hlines key, value?_linesOf]
  simp only [ofLines?, filled?, hvalue]

theorem linesOf_of_ignored (hignored : Ignored line) (key : Key) (above below : List String) :
    linesOf key (above ++ line :: below) = linesOf key (above ++ below) := by
  have hline : ¬ ∃ value, Assigns line key value := not_exists.mpr (hignored key)
  unfold linesOf
  rw [List.filter_append, List.filter_append, List.filter_cons_of_neg (by simpa using hline)]

/-- A block drafts the rule that the last line of each key describes, if these describe one; lines
that give no key a value do not matter, and neither does the order of lines of different keys. -/
theorem Draft.ofLines?_reads_last_lines (lines : List String) :
    ((∃ draft, Draft.ofLines? lines = some draft) ↔
      (∃ field ≠ "", LastValue .field lines field) ∧
        (∃ type : RuleType, LastValue .rule lines type.text) ∧
        (∃ condition ≠ "", LastValue .condition lines condition) ∧
        ∃ message ≠ "", LastValue .error lines message) ∧
      (∀ draft, Draft.ofLines? lines = some draft ↔ draft.ReadFrom lines) ∧
      (∀ above line below, Ignored line → lines = above ++ below →
        Draft.ofLines? (above ++ line :: below) = Draft.ofLines? lines) ∧
      ∀ others, (∀ key, linesOf key others = linesOf key lines) →
        Draft.ofLines? others = Draft.ofLines? lines := by
  refine ⟨?_, fun draft => ofLines?_eq_some_iff, ?_, fun others => ofLines?_congr⟩
  · simp only [ofLines?_eq_some_iff]
    exact exists_readFrom_iff
  · rintro above line below hignored rfl
    exact ofLines?_congr fun key => linesOf_of_ignored hignored key above below

theorem Draft.ofLines?_reads_last_lines_reordered :
    let lines := ["FIELD: a", "RULE: lookup", "rule : range", "CONDITION: min:0", "ERROR: y: z",
      "SEVERITY: fatal", "field:b"]
    let others := ["ERROR: y: z", "FIELD: a", "# FIELD: c", "RULE: lookup", "field:b",
      "SEVERITY: fatal", "CONDITION: min:0", "rule : range"]
    (∀ key, linesOf key others = linesOf key lines) ∧
      Draft.ReadFrom lines ⟨.range, "b", "min:0", "y: z", .error⟩ ∧
      Draft.ofLines? others = some ⟨.range, "b", "min:0", "y: z", .error⟩ := by
  intro lines others
  have hlines : ∀ key, linesOf key others = linesOf key lines := by
    intro key
    cases key <;> decide +kernel
  obtain ⟨-, hread, -, hsame⟩ := ofLines?_reads_last_lines lines
  have hdraft : Draft.ofLines? lines = some ⟨.range, "b", "min:0", "y: z", .error⟩ := by
    decide +kernel
  exact ⟨hlines, (hread _).mp hdraft, (hsame others hlines).trans hdraft⟩

end RuleText
end SheetAudit
