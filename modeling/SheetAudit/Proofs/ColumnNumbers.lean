import SheetAudit.Proofs.AddressTexts

/-!
# Columns and their numbers

Every number from 1 on has letters, and these are read as the number.  A text is read as a number
if it consists of capital letters, and then it is the letters of its number.  It is read too if one
line feed follows the letters.  The line feed then counts as a letter worth -54, so the number is
that of other letters or of no column at all.
-/

namespace SheetAudit

open Outcome

variable {s s' : String} {cs letters letters' : List Char} {n : Int}

structure IsColumnName (cs : List Char) : Prop where
  ne_nil : cs ≠ []
  isUpper : ∀ c ∈ cs, c.isUpper = true

def EndsInLineFeed (s : String) : Prop := s.toList.getLast? = some '\n'

/-! ## Letters -/

theorem IsColumnName.notMem (hletters : IsColumnName letters) : '\n' ∉ letters :=
  fun hmem => absurd (hletters.isUpper _ hmem) (by decide)

theorem IsColumnName.getLast?_ne (hletters : IsColumnName letters) :
    letters.getLast? ≠ some '\n' :=
  fun hlast => hletters.notMem (List.mem_of_getLast? hlast)

theorem IsColumnName.columnLetters_lettersValue (hletters : IsColumnName letters) :
    columnLetters (lettersValue letters) = .ok (String.ofList letters) := by
  have hpos := lettersValue_pos hletters.ne_nil hletters.isUpper
  rw [columnLetters, if_neg (by omega), lettersBefore_lettersValue hletters.isUpper]
  rfl

theorem IsColumnName.lettersValue_inj (hletters : IsColumnName letters)
    (hletters' : IsColumnName letters') (hvalue : lettersValue letters = lettersValue letters') :
    letters = letters' := by
  rw [← lettersBefore_lettersValue hletters.isUpper, hvalue,
    lettersBefore_lettersValue hletters'.isUpper]

theorem exists_columnLetters (hn : 1 ≤ n) :
    ∃ letters, columnLetters n = .ok (String.ofList letters) ∧ IsColumnName letters ∧
      lettersValue letters = n := by
  obtain ⟨hvalue, hupper⟩ := lettersValue_lettersBefore n.toNat
  have hnumber : lettersValue (lettersBefore [] n.toNat) = n := by
    rw [hvalue]
    omega
  have hsome : lettersBefore [] n.toNat ≠ [] := by
    intro hnone
    rw [hnone] at hnumber
    simp [lettersValue] at hnumber
    omega
  refine ⟨lettersBefore [] n.toNat, ?_, ⟨hsome, hupper⟩, hnumber⟩
  rw [columnLetters, if_neg (by omega)]
  rfl

theorem lettersValue_line_feed (letters : List Char) :
    lettersValue (letters ++ ['\n']) = lettersValue letters * 26 - 54 := by
  rw [lettersValue, List.foldl_append]
  rfl

/-! ## Texts that are read as a number -/

theorem namesColumn_iff :
    namesColumn cs = true ↔
      ∃ letters, IsColumnName letters ∧ (cs = letters ∨ cs = letters ++ ['\n']) := by
  unfold namesColumn
  simp only [Bool.and_eq_true, Bool.not_eq_true', List.isEmpty_eq_false_iff, List.all_eq_true,
    beq_iff_eq]
  constructor
  · intro hnames
    split at hnames
    · next hlast =>
      refine ⟨cs.dropLast, ⟨hnames.1, hnames.2⟩, .inr ?_⟩
      exact (List.dropLast_append_getLast? '\n' hlast).symm
    · exact ⟨cs, ⟨hnames.1, hnames.2⟩, .inl rfl⟩
  · rintro ⟨letters, hletters, rfl | rfl⟩
    · rw [if_neg hletters.getLast?_ne]
      exact ⟨hletters.ne_nil, hletters.isUpper⟩
    · rw [List.getLast?_concat, if_pos rfl, List.dropLast_concat]
      exact ⟨hletters.ne_nil, hletters.isUpper⟩

theorem columnNumber_eq_ok_iff :
    columnNumber (.text s) = .ok n ↔ namesColumn s.toList = true ∧ lettersValue s.toList = n := by
  unfold columnNumber
  simp only
  split
  · next hnames =>
    simp [hnames]
  · next hnames =>
    simp [hnames, Cell.expression, AddressError.ofCell]

/-- A text that is read as a number is letters, or letters and a line feed. -/
theorem exists_letters_of_columnNumber (hread : columnNumber (.text s) = .ok n) :
    ∃ letters, IsColumnName letters ∧
      ((s = String.ofList letters ∧ ¬ EndsInLineFeed s ∧ n = lettersValue letters) ∨
        (s.toList = letters ++ ['\n'] ∧ EndsInLineFeed s ∧
          n = lettersValue letters * 26 - 54)) := by
  obtain ⟨hnames, hvalue⟩ := columnNumber_eq_ok_iff.mp hread
  obtain ⟨letters, hletters, hs | hs⟩ := namesColumn_iff.mp hnames
  · refine ⟨letters, hletters, .inl ⟨?_, ?_, ?_⟩⟩
    · rw [← hs, String.ofList_toList]
    · rw [EndsInLineFeed, hs]
      exact hletters.getLast?_ne
    · rw [← hvalue, hs]
  · refine ⟨letters, hletters, .inr ⟨hs, ?_, ?_⟩⟩
    · rw [EndsInLineFeed, hs, List.getLast?_concat]
    · rw [← hvalue, hs, lettersValue_line_feed]

theorem columnNumber_of_letters (hletters : IsColumnName letters) :
    columnNumber (.text (String.ofList letters)) = .ok (lettersValue letters) := by
  rw [columnNumber_eq_ok_iff, String.toList_ofList]
  exact ⟨namesColumn_iff.mpr ⟨letters, hletters, .inl rfl⟩, rfl⟩

theorem eq_of_columnNumber (hread : columnNumber (.text s) = .ok n)
    (hread' : columnNumber (.text s') = .ok n) (hends : EndsInLineFeed s ↔ EndsInLineFeed s') :
    s = s' := by
  obtain ⟨letters, hletters, hform⟩ := exists_letters_of_columnNumber hread
  obtain ⟨letters', hletters', hform'⟩ := exists_letters_of_columnNumber hread'
  by_cases hfeed : EndsInLineFeed s
  · have hfeed' := hends.mp hfeed
    simp only [hfeed, hfeed', not_true_eq_false, false_and, and_false, false_or, true_and]
      at hform hform'
    have hvalue : lettersValue letters = lettersValue letters' := by omega
    apply String.toList_injective
    rw [hform.1, hform'.1, hletters.lettersValue_inj hletters' hvalue]
  · have hfeed' : ¬ EndsInLineFeed s' := fun hother => hfeed (hends.mpr hother)
    simp only [hfeed, hfeed', not_false_eq_true, false_and, and_false, or_false, true_and]
      at hform hform'
    have hvalue : lettersValue letters = lettersValue letters' := by omega
    rw [hform.1, hform'.1, hletters.lettersValue_inj hletters' hvalue]

/-- The number that a text is read as is from 1 on and has that text as its letters, unless the text
ends in a line feed.  Every number from 1 on has letters, which are read as that number.  Different
texts are read as different numbers, unless just one of the two ends in a line feed. -/
theorem columnNumber_columnLetters (s s' : String) (n : Int) :
    (columnNumber (.text s) = .ok n →
      ((1 ≤ n ∧ columnLetters n = .ok s) ↔ ¬ EndsInLineFeed s)) ∧
    (1 ≤ n → ∃ letters, columnLetters n = .ok letters ∧ columnNumber (.text letters) = .ok n) ∧
    (columnNumber (.text s) = .ok n → columnNumber (.text s') = .ok n →
      (EndsInLineFeed s ↔ EndsInLineFeed s') → s = s') := by
  refine ⟨?_, ?_, eq_of_columnNumber⟩
  · intro hread
    constructor
    · intro hback
      obtain ⟨letters, hwritten, hletters, -⟩ := exists_columnLetters hback.1
      rw [hwritten, Except.ok.injEq] at hback
      rw [EndsInLineFeed, ← hback.2, String.toList_ofList]
      exact hletters.getLast?_ne
    · intro hends
      obtain ⟨letters, hletters, hform⟩ := exists_letters_of_columnNumber hread
      simp only [hends, not_false_eq_true, false_and, and_false, or_false, true_and] at hform
      rw [hform.1, hform.2]
      exact ⟨lettersValue_pos hletters.ne_nil hletters.isUpper,
        hletters.columnLetters_lettersValue⟩
  · intro hn
    obtain ⟨letters, hwritten, hletters, rfl⟩ := exists_columnLetters hn
    exact ⟨_, hwritten, columnNumber_of_letters hletters⟩

theorem columnNumber_columnLetters_two_letters :
    columnNumber (.text "AZ") = .ok 52 ∧ ¬ EndsInLineFeed "AZ" ∧ 1 ≤ (52 : Int) ∧
      columnLetters 52 = .ok "AZ" ∧
      ∀ s, columnNumber (.text s) = .ok 52 → ¬ EndsInLineFeed s → s = "AZ" := by
  have hnumber : columnNumber (.text "AZ") = .ok 52 := by decide +kernel
  have hends : ¬ EndsInLineFeed "AZ" := by
    rw [EndsInLineFeed]
    decide +kernel
  have hcolumn := (columnNumber_columnLetters "AZ" "AZ" 52).1 hnumber
  obtain ⟨hpos, hletters⟩ := hcolumn.mpr hends
  refine ⟨hnumber, hends, hpos, hletters, ?_⟩
  intro s hread hfeed
  obtain ⟨-, -, hsame⟩ := columnNumber_columnLetters s "AZ" 52
  exact hsame hread hnumber (by simp [hfeed, hends])

/-- With a line feed behind it, the letter of the first column is read as a number below 1, and that
of the third column as the number of another one. -/
theorem columnNumber_of_line_feed :
    (columnNumber (.text "A\n") = .ok (-28) ∧ ¬ 1 ≤ (-28 : Int)) ∧
      columnNumber (.text "C\n") = .ok 24 ∧ columnLetters 24 = .ok "X" ∧
      columnNumber (.text "X") = .ok 24 := by
  have hletters : IsColumnName ['X'] := by
    refine ⟨List.cons_ne_nil _ _, ?_⟩
    intro c hc
    rw [List.mem_singleton.mp hc]
    rfl
  refine ⟨⟨by decide +kernel, by decide⟩, by decide +kernel, ?_, by decide +kernel⟩
  exact hletters.columnLetters_lettersValue

end SheetAudit
