import SheetAudit.Proofs.NumberTexts

/-!
# Cells and their texts

A cell of a workbook may hold a truth value, a whole number or a value of the calendar where the
cell of a plain file holds the text of that value.  The two show the same text and count as the same
number, and neither is empty: only whole numbers count as numbers, and so do only their texts.
-/

namespace SheetAudit

open Text

/-! ## Texts of values of the calendar -/

theorem isDigit_of_mem_padded {width n : Nat} {c : Char} (hc : c ∈ padded width n) :
    c.isDigit = true := by
  rcases List.mem_append.mp hc with hzero | hdigit
  · rw [List.eq_of_mem_replicate hzero]
    rfl
  · exact isDigit_of_mem_decimalChars hdigit

theorem padded_ne_nil (width n : Nat) : padded width n ≠ [] :=
  List.append_ne_nil_of_right_ne_nil _ Nat.toDigits_ne_nil

theorem Date.readDouble?_text (d : Date) : readDouble? d.text = none := by
  have hpart (width n : Nat) : ∀ c ∈ padded width n, StandsAsIs c :=
    fun c hc => standsAsIs_of_isDigit (isDigit_of_mem_padded hc)
  have hdash : StandsAsIs '-' := by decide
  have hchars : ∀ c ∈ padded 4 d.year ++ '-' :: padded 2 d.month ++ '-' :: padded 2 d.day,
      StandsAsIs c := by
    simp only [List.forall_mem_append, List.forall_mem_cons]
    exact ⟨⟨hpart 4 d.year, hdash, hpart 2 d.month⟩, hdash, hpart 2 d.day⟩
  rw [Date.text, readDouble?_eq_readPlain? hchars, List.append_assoc, List.cons_append]
  exact readPlain?_dash (fun c hc => isDigit_of_mem_padded hc) (padded_ne_nil 4 d.year)

theorem ClockTime.colon_mem_text (t : ClockTime) : ':' ∈ t.text.toList := by
  simp [ClockTime.text]

theorem DateTime.colon_mem_text (t : DateTime) : ':' ∈ t.text.toList := by
  simp [DateTime.text, t.clock.colon_mem_text]

theorem Duration.colon_mem_text (d : Duration) : ':' ∈ d.text.toList := by
  simp [Duration.text]

theorem ne_empty_of_mem {s : String} {c : Char} (hc : c ∈ s.toList) : s ≠ "" := by
  rintro rfl
  cases hc

namespace Cell

variable {cell : Cell} {s : String}

theorem textNumber_of_blank (hblank : ∀ c ∈ s.toList, Text.isBlank c = true) :
    textNumber s = none := by
  have hnothing : (joinDigits ' ' (plainDigits [])).bind readPlain? = none := by decide +kernel
  rw [textNumber, readDouble?, trimChars_of_blank hblank, hnothing]
  rfl

theorem textNumber_empty : textNumber "" = none := textNumber_of_blank (by simp)

theorem number_normalized (cell : Cell) : cell.normalized.number = cell.number := by
  unfold normalized
  split
  · rfl
  · next text =>
    split
    · next hempty =>
      rw [String.isEmpty_iff.mp hempty]
      exact congrArg Except.ok textNumber_empty.symm
    · rfl
  · rfl

theorem number_of_isBlank (hblank : cell.isBlank = true) : cell.number = .ok none := by
  cases cell with
  | empty => rfl
  | double value =>
      cases value with
      | nan => rfl
      | number x => cases hblank
  | text value =>
      have hcs : ∀ c ∈ value.toList, Text.isBlank c = true := by
        by_cases hempty : value.isEmpty = true
        · rw [String.isEmpty_iff.mp hempty]
          simp
        · rw [isBlank, normalized, if_neg hempty] at hblank
          exact List.all_eq_true.mp hblank
      rw [number, textNumber_of_blank hcs]
      rfl
  | _ => cases hblank

/-- A truth value, a whole number within the range of a double, or a value of the calendar. -/
inductive IsTyped : Cell → Prop where
  | bool (truth : Bool) : IsTyped (.bool truth)
  | int {n : Int} (hfinite : (Number.ofInt n).isInfinite = false) : IsTyped (.int n)
  | date (d : Date) : IsTyped (.date d)
  | dateTime (t : DateTime) : IsTyped (.dateTime t)
  | clock (t : ClockTime) : IsTyped (.clock t)
  | duration (d : Duration) : IsTyped (.duration d)

/-- A typed cell shows a text that counts as the same number as the cell. -/
theorem IsTyped.exists_text (htyped : cell.IsTyped) :
    ∃ s, cell.shown = .ok s ∧ s ≠ "" ∧ cell.number = .ok (textNumber s) := by
  have hcolon : ∀ {s : String}, ':' ∈ s.toList → s ≠ "" ∧ textNumber s = none := by
    intro s hs
    rw [textNumber, readDouble?_of_colon hs]
    exact ⟨ne_empty_of_mem hs, rfl⟩
  cases htyped with
  | bool truth =>
      have hword : textNumber "true" = none ∧ textNumber "false" = none := by decide +kernel
      cases truth
      · exact ⟨"false", rfl, by decide, congrArg _ hword.2.symm⟩
      · exact ⟨"true", rfl, by decide, congrArg _ hword.1.symm⟩
  | int hfinite =>
      obtain ⟨s, hshown, hne, hread⟩ := exists_intText_of_finite hfinite
      refine ⟨s, hshown, hne, ?_⟩
      rw [textNumber, hread, number, hfinite]
      rfl
  | date d =>
      have hdash : '-' ∈ d.text.toList := by simp [Date.text]
      refine ⟨d.text, rfl, ne_empty_of_mem hdash, ?_⟩
      rw [textNumber, d.readDouble?_text]
      rfl
  | dateTime t =>
      obtain ⟨hne, hnumber⟩ := hcolon t.colon_mem_text
      exact ⟨t.text, rfl, hne, congrArg _ hnumber.symm⟩
  | clock t =>
      obtain ⟨hne, hnumber⟩ := hcolon t.colon_mem_text
      exact ⟨t.text, rfl, hne, congrArg _ hnumber.symm⟩
  | duration d =>
      obtain ⟨hne, hnumber⟩ := hcolon d.colon_mem_text
      exact ⟨d.text, rfl, hne, congrArg _ hnumber.symm⟩

theorem IsTyped.normalized_eq (htyped : cell.IsTyped) : cell.normalized = cell := by
  cases htyped <;> rfl

theorem IsTyped.isEmpty_eq_false (htyped : cell.IsTyped) : cell.isEmpty = false := by
  rw [isEmpty, htyped.normalized_eq]
  cases htyped <;> rfl

theorem normalized_text (hs : s ≠ "") : (Cell.text s).normalized = .text s := by
  simp [normalized, hs]

theorem IsTyped.text_ne_empty (htyped : cell.IsTyped) (hshown : cell.shown = .ok s) : s ≠ "" := by
  obtain ⟨s', hshown', hne, -⟩ := htyped.exists_text
  rw [hshown] at hshown'
  cases hshown'
  exact hne

theorem IsTyped.number_eq (htyped : cell.IsTyped) (hshown : cell.shown = .ok s) :
    cell.number = .ok (textNumber s) := by
  obtain ⟨s', hshown', -, hnumber⟩ := htyped.exists_text
  rw [hshown] at hshown'
  cases hshown'
  exact hnumber

end Cell

end SheetAudit
