import Mathlib.Tactic
import SheetAudit.Proofs.RuleBlocks

/-!
# Rules that are written read back

A draft is written as five lines, one for each key, and a line of three dashes stands between two
drafts.  A value may be any text that is not empty, has no blank at its ends and stays on its line:
colons, number signs, dashes and the words of keys inside it are read as part of it.
-/

namespace SheetAudit

namespace Text

theorem lines_of_last_line {line : String} (hne : line ≠ "")
    (hline : ∀ c ∈ line.toList, isLineBreak c = false) : lines line = [line] := by
  have hchars : line.toList ≠ [] := by simpa using hne
  rw [lines, ← List.append_nil line.toList, linesFrom_plain hline, linesFrom_nil]
  simp [hchars]

/-- Lines with line feeds between them are the lines of the text that they make. -/
theorem lines_intercalate {written : List String} (hne : ∀ line ∈ written, line ≠ "")
    (hplain : ∀ line ∈ written, ∀ c ∈ line.toList, isLineBreak c = false) :
    lines ("\n".intercalate written) = written := by
  induction written with
  | nil => rfl
  | cons line written ih =>
      rw [List.forall_mem_cons] at hne hplain
      cases written with
      | nil => exact lines_of_last_line hne.1 hplain.1
      | cons next written =>
          rw [String.intercalate_cons_cons, lines_of_line hplain.1, ih hne.2 hplain.2]

end Text

namespace RuleText

open Text

/-- A value that a line can hold as it is. -/
structure IsPlain (value : String) : Prop where
  ne_empty : value ≠ ""
  first : ∀ c ∈ value.toList.head?, isBlank c = false
  last : ∀ c ∈ value.toList.getLast?, isBlank c = false
  unbroken : ∀ c ∈ value.toList, isLineBreak c = false

instance (value : String) : Decidable (IsPlain value) :=
  decidable_of_iff (value ≠ "" ∧ value.toList.head?.all (!isBlank ·) = true ∧
    value.toList.getLast?.all (!isBlank ·) = true ∧ value.toList.all (!isLineBreak ·) = true) (by
      simp only [Option.all_eq_true, List.all_eq_true, Bool.not_eq_true']
      exact ⟨fun hvalue => ⟨hvalue.1, hvalue.2.1, hvalue.2.2.1, hvalue.2.2.2⟩,
        fun hplain => ⟨hplain.ne_empty, hplain.first, hplain.last, hplain.unbroken⟩⟩)

/-- The line that gives a key a value. -/
def Key.line (key : Key) (value : String) : String := key.text ++ ": " ++ value

namespace Draft

def valueOf (draft : Draft) : Key → String
  | .field => draft.field
  | .rule => draft.type.text
  | .condition => draft.condition
  | .error => draft.errorMessage
  | .severity => draft.severity.text

def writtenLines (draft : Draft) : List String :=
  [Key.field, .rule, .condition, .error, .severity].map fun key => key.line (draft.valueOf key)

/-- The text of some drafts: the lines of each, with a line of three dashes between two drafts. -/
def write (drafts : List Draft) : String :=
  "\n---\n".intercalate (drafts.map fun draft => "\n".intercalate draft.writtenLines)

/-- A draft whose values lines can hold. -/
structure IsWritable (draft : Draft) : Prop where
  field : IsPlain draft.field
  condition : IsPlain draft.condition
  errorMessage : IsPlain draft.errorMessage

end Draft

variable {key : Key} {value : String} {draft : Draft}

/-! ## One line -/

theorem IsPlain.trim_eq (hplain : IsPlain value) : trim value = value := by
  rw [trim, trimChars_of_ends hplain.first hplain.last, String.ofList_toList]

theorem trim_of_blank_start (value : String) : trim (" " ++ value) = trim value := by
  have hchars : (" " ++ value).toList = ' ' :: value.toList := by simp
  have hblank : isBlank ' ' = true := by decide
  rw [trim, trim, hchars, trimChars, List.dropWhile_cons_of_pos hblank, ← trimChars]

theorem Key.toList_line (key : Key) (value : String) :
    (key.line value).toList = key.text.toList ++ ':' :: ' ' :: value.toList := by
  simp [Key.line]

theorem Key.text_chars (key : Key) : ∃ first rest, key.text.toList = first :: rest ∧
    isBlank first = false ∧ first ≠ '#' := by
  cases key <;> exact ⟨_, _, rfl, by decide, by decide⟩

theorem Key.trim_line (key : Key) (hplain : IsPlain value) :
    trim (key.line value) = key.line value := by
  obtain ⟨first, rest, hchars, hfirst, -⟩ := key.text_chars
  have hvalue : value.toList ≠ [] := by simpa using hplain.ne_empty
  rw [trim, trimChars_of_ends, String.ofList_toList]
  · simpa [Key.toList_line, hchars] using hfirst
  · have hends : (key.line value).toList = (key.text.toList ++ [':', ' ']) ++ value.toList := by
      simp [Key.toList_line]
    rw [hends, List.getLast?_append_of_ne_nil _ hvalue]
    exact hplain.last

theorem assigns_line (key : Key) (hplain : IsPlain value) : Assigns (key.line value) key value := by
  obtain ⟨first, rest, hchars, -, hcomment⟩ := key.text_chars
  refine ⟨key.text, " " ++ value, ?_, ?_, ?_, ?_, ?_⟩
  · rw [key.trim_line hplain]
    apply String.toList_inj.mp
    simp [Key.toList_line]
  · cases key <;> decide
  · rw [key.trim_line hplain, Key.toList_line, hchars]
    simpa using hcomment
  · cases key <;> decide +kernel
  · rw [trim_of_blank_start, hplain.trim_eq]

theorem isSeparator_line (key : Key) (hplain : IsPlain value) :
    isSeparator (key.line value) = false := by
  rw [isSeparator, key.trim_line hplain, beq_eq_false_iff_ne]
  intro hdashes
  have hcolon : ':' ∈ (key.line value).toList := by simp [Key.toList_line]
  rw [hdashes] at hcolon
  revert hcolon
  decide

theorem unbroken_line (key : Key) (hplain : IsPlain value) :
    ∀ c ∈ (key.line value).toList, isLineBreak c = false := by
  intro c hc
  have hkey : IsPlain key.text := by cases key <;> decide
  rw [Key.toList_line, List.mem_append, List.mem_cons, List.mem_cons] at hc
  rcases hc with hword | rfl | rfl | hvalue
  · exact hkey.unbroken c hword
  · rfl
  · rfl
  · exact hplain.unbroken c hvalue

theorem line_ne_empty (key : Key) (value : String) : key.line value ≠ "" := by
  intro hempty
  have hchars := congrArg String.toList hempty
  simp [Key.toList_line] at hchars

/-! ## One rule -/

namespace Draft

theorem isPlain_type (type : RuleType) : IsPlain type.text := by
  cases type <;> decide

theorem isPlain_severity (severity : Severity) : IsPlain severity.text := by
  cases severity <;> decide

theorem IsWritable.isPlain (hwritable : draft.IsWritable) (key : Key) :
    IsPlain (draft.valueOf key) := by
  cases key with
  | field => exact hwritable.field
  | rule => exact isPlain_type draft.type
  | condition => exact hwritable.condition
  | error => exact hwritable.errorMessage
  | severity => exact isPlain_severity draft.severity

theorem mem_writtenLines {line : String} (hline : line ∈ draft.writtenLines) :
    ∃ key : Key, line = key.line (draft.valueOf key) := by
  obtain ⟨key, -, hsame⟩ := List.mem_map.mp hline
  exact ⟨key, hsame.symm⟩

theorem value?_writtenLines (hwritable : draft.IsWritable) (key : Key) :
    value? key draft.writtenLines = some (draft.valueOf key) := by
  have hentry : ∀ other : Key,
      entry? (other.line (draft.valueOf other)) = some (other, draft.valueOf other) := fun other =>
    entry?_eq_some_iff.mpr (assigns_line other (hwritable.isPlain other))
  cases key <;> simp [value?, writtenLines, hentry]

theorem readFrom_writtenLines (hwritable : draft.IsWritable) :
    draft.ReadFrom draft.writtenLines := by
  have hlast : ∀ key, LastValue key draft.writtenLines (draft.valueOf key) := fun key =>
    value?_eq_some_iff.mp (value?_writtenLines hwritable key)
  exact {
    field := hlast .field
    field_ne := hwritable.field.ne_empty
    type := hlast .rule
    condition := hlast .condition
    condition_ne := hwritable.condition.ne_empty
    error := hlast .error
    error_ne := hwritable.errorMessage.ne_empty
    severity := .inl (hlast .severity) }

theorem ofText_written (hwritable : draft.IsWritable) :
    Draft.ofText ("\n".intercalate draft.writtenLines) = [draft] := by
  have hlines : Text.lines ("\n".intercalate draft.writtenLines) = draft.writtenLines := by
    apply lines_intercalate
    · intro line hline
      obtain ⟨key, rfl⟩ := mem_writtenLines hline
      exact line_ne_empty key _
    · intro line hline
      obtain ⟨key, rfl⟩ := mem_writtenLines hline
      exact unbroken_line key (hwritable.isPlain key)
  rw [ofText_of_no_separator]
  · rw [hlines, ofLines?_eq_some_iff.mpr (readFrom_writtenLines hwritable)]
    rfl
  · intro line hline
    rw [hlines] at hline
    obtain ⟨key, rfl⟩ := mem_writtenLines hline
    exact isSeparator_line key (hwritable.isPlain key)

/-! ## Many rules -/

theorem ofText_writes {drafts : List Draft} (hwritable : ∀ draft ∈ drafts, draft.IsWritable) :
    Draft.ofText (write drafts) = drafts := by
  induction drafts with
  | nil => decide +kernel
  | cons draft drafts ih =>
      rw [List.forall_mem_cons] at hwritable
      cases drafts with
      | nil =>
          rw [write, List.map_singleton, String.intercalate_singleton, ofText_written hwritable.1]
      | cons next drafts =>
          have hmore : write (draft :: next :: drafts) =
              "\n".intercalate draft.writtenLines ++ "\n---\n" ++ write (next :: drafts) := by
            simp only [write, List.map_cons, String.intercalate_cons_cons]
          rw [hmore, ofText_append_separator, ofText_written hwritable.1, ih hwritable.2,
            List.singleton_append]

/-- Drafts that are written are read back, all of them and in order, whether or not a line feed
ends the text. -/
theorem ofText_write {drafts : List Draft} (hwritable : ∀ draft ∈ drafts, draft.IsWritable) :
    Draft.ofText (write drafts) = drafts ∧ Draft.ofText (write drafts ++ "\n") = drafts := by
  rw [ofText_append_newline]
  exact ⟨ofText_writes hwritable, ofText_writes hwritable⟩

theorem ofText_write_marks_in_values :
    let drafts : List Draft :=
      [⟨.range, "A1:A10", "min:0,max:5", "# Bad: value", .error⟩,
        ⟨.custom, "FIELD: x", "---", "ERROR", .warning⟩]
    (∀ draft ∈ drafts, draft.IsWritable) ∧
      write drafts =
        "FIELD: A1:A10\nRULE: range\nCONDITION: min:0,max:5\nERROR: # Bad: value\n" ++
          "SEVERITY: error\n---\n" ++
          "FIELD: FIELD: x\nRULE: custom\nCONDITION: ---\nERROR: ERROR\nSEVERITY: warning" ∧
      Draft.ofText (write drafts) = drafts := by
  intro drafts
  have hwritable : ∀ draft ∈ drafts, draft.IsWritable := by
    intro draft hdraft
    simp only [drafts, List.mem_cons, List.not_mem_nil, or_false] at hdraft
    rcases hdraft with rfl | rfl <;> constructor <;> decide
  exact ⟨hwritable, by decide +kernel, (ofText_write hwritable).1⟩

end Draft

end RuleText
end SheetAudit
