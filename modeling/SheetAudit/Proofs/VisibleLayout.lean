import Mathlib.Data.List.Sort
import Mathlib.Tactic
import SheetAudit.Proofs.BlankSeparator
import SheetAudit.Proofs.CellTexts
import SheetAudit.Proofs.TableShape

/-!
# Tables depend on what is shown

A sheet may come with its short rows padded or not, and an empty cell may come as nothing, as an
empty text, as a text of blanks or as a NaN.  What a row shows is the same in all cases: the cells
that are not blank, each in its column.  Everything that is asked of a row on the way to its tables
can be answered from these.
-/

namespace SheetAudit

namespace Table

/-- The cell that a row shows in a column, if it shows one there. -/
def shownAt? (row : Row) (col : Nat) : Option Cell := row[col]?.filter (!·.isBlank)

/-- Two rows look alike if they show the same in every column. -/
def LooksAlike (row other : Row) : Prop := ∀ col, shownAt? row col = shownAt? other col

variable {row other header headerOther : Row}

@[simp] theorem shownAt?_cons_zero (cell : Cell) (cells : Row) :
    shownAt? (cell :: cells) 0 = if cell.isBlank then none else some cell := by
  cases hblank : cell.isBlank <;> simp [shownAt?, Option.filter, hblank]

theorem shownAt?_eq_some_iff {col : Nat} {cell : Cell} :
    shownAt? row col = some cell ↔ row[col]? = some cell ∧ cell.isBlank = false := by
  simp [shownAt?, Option.filter_eq_some_iff]

theorem isSome_shownAt? (row : Row) (col : Nat) :
    (shownAt? row col).isSome = row[col]?.any (!·.isBlank) := by
  unfold shownAt?
  cases row[col]? with
  | none => rfl
  | some cell => cases hblank : cell.isBlank <;> simp [Option.filter, hblank]

theorem isBlankRow_iff_shownAt? : isBlankRow row = true ↔ ∀ col, shownAt? row col = none := by
  rw [isBlankRow_iff]
  constructor
  · intro hblank col
    rw [Option.eq_none_iff_forall_ne_some]
    intro cell hshown
    obtain ⟨hcell, hfilled⟩ := shownAt?_eq_some_iff.mp hshown
    rw [hblank cell (List.mem_of_getElem? hcell)] at hfilled
    cases hfilled
  · intro hnone cell hmem
    obtain ⟨col, hcell⟩ := List.mem_iff_getElem?.mp hmem
    by_contra hfilled
    have hshown : shownAt? row col = some cell :=
      shownAt?_eq_some_iff.mpr ⟨hcell, Bool.eq_false_of_not_eq_true hfilled⟩
    rw [hnone col] at hshown
    cases hshown

theorem filter_of_blank (hblank : isBlankRow row = true) : row.filter (!·.isBlank) = [] := by
  rw [List.filter_eq_nil_iff]
  intro cell hcell
  simp [isBlankRow_iff.mp hblank cell hcell]

theorem filter_cons_eq (cell : Cell) (cells : Row) :
    (cell :: cells).filter (!·.isBlank) =
      (shownAt? (cell :: cells) 0).toList ++ cells.filter (!·.isBlank) := by
  cases hblank : cell.isBlank <;> simp [hblank]

/-! ## Questions to a row, answered from what it shows -/

theorem isBlank_of_isText {cell : Cell} (htext : cell.isText = true) : cell.isBlank = false := by
  by_contra hblank
  rw [isText_of_isBlank (Bool.eq_true_of_not_eq_false hblank)] at htext
  cases htext

theorem isLabelRow_eq_shownAt? (row : Row) :
    isLabelRow row = (shownAt? row 0).any Cell.isText := by
  cases row with
  | nil => rfl
  | cons cell cells =>
      by_cases hblank : cell.isBlank = true
      · simp [isLabelRow, isText_of_isBlank hblank, hblank]
      · simp [isLabelRow, hblank]

theorem mem_textColumns_iff_shownAt? {col : Nat} :
    col ∈ textColumns row ↔ ∃ cell, shownAt? row col = some cell ∧ cell.isText = true := by
  rw [mem_textColumns]
  apply exists_congr
  intro cell
  rw [shownAt?_eq_some_iff]
  constructor
  · intro hcell
    exact ⟨⟨hcell.1, isBlank_of_isText hcell.2⟩, hcell.2⟩
  · intro hcell
    exact ⟨hcell.1.1, hcell.2⟩

theorem textHeaders_eq_filter (row : Row) :
    textHeaders row = ((row.filter (!·.isBlank)).filter Cell.isText).map headerText := by
  have htexts : row.filter Cell.isText = row.filter fun cell => cell.isText && !cell.isBlank := by
    apply List.filter_congr
    intro cell _
    by_cases htext : cell.isText = true
    · simp [isBlank_of_isText htext]
    · simp [htext]
  rw [textHeaders, List.filter_filter, htexts]

theorem anyNumber_eq_filter (cells : List Cell) :
    anyNumber cells = anyNumber (cells.filter (!·.isBlank)) := by
  induction cells with
  | nil => rfl
  | cons cell cells ih =>
      cases hblank : cell.isBlank with
      | true =>
          rw [List.filter_cons_of_neg (by simp [hblank]), ← ih, anyNumber, Cell.isNumber,
            Cell.number_of_isBlank hblank]
          rfl
      | false => rw [List.filter_cons_of_pos (by simp [hblank]), anyNumber, anyNumber, ih]

theorem isMatrixHeader_eq_shownAt? (row : Row) :
    isMatrixHeader row = ((shownAt? row 0).all Cell.isText &&
      !((row.drop 1).filter (!·.isBlank)).isEmpty &&
      ((row.drop 1).filter (!·.isBlank)).all Cell.isText) := by
  cases row with
  | nil => rfl
  | cons corner cells =>
      cases hblank : corner.isBlank <;> simp [isMatrixHeader, hblank]

-- An empty row and a row of blanks differ in their headers, but neither is the header of a matrix.
theorem matrixHeaders_eq_shownAt? (hheader : isMatrixHeader row = true) :
    matrixHeaders row = ((shownAt? row 0).map headerText).getD "" ::
      ((row.drop 1).filter (!·.isBlank)).map headerText := by
  cases row with
  | nil => cases hheader
  | cons corner cells => cases hblank : corner.isBlank <;> simp [matrixHeaders, hblank]

theorem showsUnder_iff_shownAt? : showsUnder header row = true ↔
    ∃ col ∈ textColumns header, (shownAt? row col).isSome = true := by
  rw [← fillsOneOf_textColumns, fillsOneOf, List.any_eq_true]
  simp only [isSome_shownAt?]

namespace LooksAlike

/-! ## What does not change a row's look -/

theorem refl (row : Row) : LooksAlike row row := fun _ => rfl

theorem symm (hlook : LooksAlike row other) : LooksAlike other row := fun col => (hlook col).symm

theorem set_blank (col : Nat) {old new : Cell} (hold : row[col]? = some old)
    (hblank : old.isBlank = true) (hnew : new.isBlank = true) :
    LooksAlike row (row.set col new) := by
  intro place
  by_cases hplace : col = place
  · subst hplace
    have hset : (row.set col new)[col]? = some new :=
      List.getElem?_set_self (List.getElem?_eq_some_iff.mp hold).1
    rw [shownAt?, shownAt?, hold, hset]
    simp [Option.filter, hblank, hnew]
  · rw [shownAt?, shownAt?, List.getElem?_set_ne hplace]

theorem append_blanks {blanks : Row} (hblanks : isBlankRow blanks = true) :
    LooksAlike row (row ++ blanks) := by
  intro col
  by_cases hcol : col < row.length
  · rw [shownAt?, shownAt?, List.getElem?_append_left hcol]
  · have hnone : shownAt? blanks (col - row.length) = none :=
      isBlankRow_iff_shownAt?.mp hblanks _
    rw [shownAt?, shownAt?, List.getElem?_append_right (Nat.not_lt.mp hcol),
      List.getElem?_eq_none (Nat.not_lt.mp hcol), ← shownAt?, hnone]
    rfl

theorem normalized (hlook : LooksAlike row other) :
    LooksAlike (row.map Cell.normalized) (other.map Cell.normalized) := by
  have hmap : ∀ given col, shownAt? (given.map Cell.normalized) col =
      (shownAt? given col).map Cell.normalized := by
    intro given col
    rw [shownAt?, shownAt?, List.getElem?_map]
    cases given[col]? with
    | none => rfl
    | some cell => cases hblank : cell.isBlank <;> simp [Option.filter, isBlank_normalized, hblank]
  intro col
  rw [hmap, hmap, hlook col]

theorem drop (hlook : LooksAlike row other) (count : Nat) :
    LooksAlike (row.drop count) (other.drop count) := by
  intro col
  rw [shownAt?, shownAt?, List.getElem?_drop, List.getElem?_drop]
  exact hlook (count + col)

/-! ## Rows that look alike are alike to a scanner -/

theorem isBlankRow_eq (hlook : LooksAlike row other) : isBlankRow row = isBlankRow other := by
  rw [Bool.eq_iff_iff, isBlankRow_iff_shownAt?, isBlankRow_iff_shownAt?]
  simp only [hlook _]

theorem filter_eq (hlook : LooksAlike row other) :
    row.filter (!·.isBlank) = other.filter (!·.isBlank) := by
  induction row generalizing other with
  | nil =>
      have hblank : isBlankRow other = true := hlook.isBlankRow_eq.symm
      rw [filter_of_blank hblank]
      rfl
  | cons cell cells ih =>
      cases other with
      | nil =>
          have hblank : isBlankRow (cell :: cells) = true := hlook.isBlankRow_eq
          rw [filter_of_blank hblank]
          rfl
      | cons found others =>
          have htail : cells.filter (!·.isBlank) = others.filter (!·.isBlank) := ih (hlook.drop 1)
          rw [filter_cons_eq, filter_cons_eq, hlook 0, htail]

theorem isLabelRow_eq (hlook : LooksAlike row other) : isLabelRow row = isLabelRow other := by
  rw [isLabelRow_eq_shownAt?, isLabelRow_eq_shownAt?, hlook 0]

theorem textColumns_eq (hlook : LooksAlike row other) : textColumns row = textColumns other := by
  apply (pairwise_textColumnsFrom 0 row).eq_of_mem_iff (pairwise_textColumnsFrom 0 other)
  intro col
  rw [← textColumns, ← textColumns, mem_textColumns_iff_shownAt?, mem_textColumns_iff_shownAt?,
    hlook col]

theorem textHeaders_eq (hlook : LooksAlike row other) : textHeaders row = textHeaders other := by
  rw [textHeaders_eq_filter, textHeaders_eq_filter, hlook.filter_eq]

theorem isVerticalHeader_eq (hlook : LooksAlike row other) :
    isVerticalHeader row = isVerticalHeader other := by
  rw [isVerticalHeader, isVerticalHeader, hlook.textColumns_eq]

theorem isMatrixHeader_eq (hlook : LooksAlike row other) :
    isMatrixHeader row = isMatrixHeader other := by
  rw [isMatrixHeader_eq_shownAt?, isMatrixHeader_eq_shownAt?, hlook 0, (hlook.drop 1).filter_eq]

theorem matrixHeaders_eq (hlook : LooksAlike row other) (hheader : isMatrixHeader row = true) :
    matrixHeaders row = matrixHeaders other := by
  have hother : isMatrixHeader other = true := hlook.isMatrixHeader_eq.symm.trans hheader
  rw [matrixHeaders_eq_shownAt? hheader, matrixHeaders_eq_shownAt? hother, hlook 0,
    (hlook.drop 1).filter_eq]

theorem startsMatrix_eq {below belowOther : Row} (hlook : LooksAlike row other)
    (hbelow : LooksAlike below belowOther) :
    startsMatrix row below = startsMatrix other belowOther := by
  rw [startsMatrix, startsMatrix, hlook.isMatrixHeader_eq, hbelow.isLabelRow_eq,
    anyNumber_eq_filter (below.drop 1), anyNumber_eq_filter (belowOther.drop 1),
    (hbelow.drop 1).filter_eq]

theorem rightmost_le (hlook : LooksAlike row other) : rightmost row ≤ rightmost other := by
  apply Finset.sup_le
  intro col hcol
  have hshown : (shownAt? row col).isSome = true := by
    rw [isSome_shownAt?]
    exact (Finset.mem_filter.mp hcol).2
  rw [hlook col, Option.isSome_iff_exists] at hshown
  obtain ⟨cell, hcell⟩ := hshown
  obtain ⟨hplace, hfilled⟩ := shownAt?_eq_some_iff.mp hcell
  exact le_rightmost hplace hfilled

theorem rightmost_eq (hlook : LooksAlike row other) : rightmost row = rightmost other :=
  le_antisymm hlook.rightmost_le hlook.symm.rightmost_le

theorem showsUnder_eq (hheader : LooksAlike header headerOther) (hlook : LooksAlike row other) :
    showsUnder header row = showsUnder headerOther other := by
  rw [Bool.eq_iff_iff, showsUnder_iff_shownAt?, showsUnder_iff_shownAt?, hheader.textColumns_eq]
  simp only [hlook _]

end LooksAlike

/-! ## Sheets that look alike -/

section Sheets

variable {options : ScanOptions} {rows others : List Row} {start last : Nat}

theorem looksAlike_rowAt (halike : List.Forall₂ LooksAlike rows others) (i : Nat) :
    LooksAlike (rowAt rows i) (rowAt others i) := by
  induction halike generalizing i with
  | nil => exact .refl _
  | cons hlook _ ih =>
      cases i with
      | zero => exact hlook
      | succ i => exact ih i

theorem lastReached_congr {fits : Row → Bool} {limit : Int}
    (halike : List.Forall₂ LooksAlike rows others)
    (hfits : ∀ {row other}, LooksAlike row other → fits row = fits other)
    (hempty : fits [] = false) (hstart : start < rows.length) :
    lastReached fits limit rows start = lastReached fits limit others start := by
  have hsame : {last | Reaches fits limit rows start last} =
      {last | Reaches fits limit others start last} := by
    ext last
    change Reaches fits limit rows start last ↔ Reaches fits limit others start last
    simp only [Reaches, hfits (looksAlike_rowAt halike _)]
  have hgreatest := isGreatest_lastReached limit hempty hstart
  rw [hsame] at hgreatest
  exact hgreatest.unique (isGreatest_lastReached limit hempty (halike.length_eq ▸ hstart))

theorem matrixEnd_congr (halike : List.Forall₂ LooksAlike rows others)
    (hstart : start < rows.length) :
    matrixEnd options rows start = matrixEnd options others start :=
  lastReached_congr halike LooksAlike.isLabelRow_eq rfl hstart

theorem verticalEnd_congr (halike : List.Forall₂ LooksAlike rows others)
    (hstart : start < rows.length) :
    verticalEnd options rows start = verticalEnd options others start :=
  lastReached_congr halike (fun hlook => congrArg (!·) hlook.isBlankRow_eq) rfl hstart

theorem lastShown_congr (halike : List.Forall₂ LooksAlike rows others) (start last : Nat) :
    lastShown rows start last = lastShown others start last :=
  Finset.sup_congr rfl fun i _ => (looksAlike_rowAt halike i).rightmost_eq

theorem dataRows_congr (halike : List.Forall₂ LooksAlike rows others) (start last : Nat) :
    dataRows rows start last = dataRows others start last := by
  unfold dataRows
  congr 1
  apply Finset.filter_congr
  intro i _
  rw [(looksAlike_rowAt halike start).showsUnder_eq (looksAlike_rowAt halike i)]

theorem matrixAt_congr (halike : List.Forall₂ LooksAlike rows others)
    (hstart : start < rows.length) (hheader : isMatrixHeader (rowAt rows start) = true) :
    matrixAt options rows start = matrixAt options others start := by
  rw [matrixAt, matrixAt, matrixEnd_congr halike hstart, lastShown_congr halike,
    (looksAlike_rowAt halike start).matrixHeaders_eq hheader]

theorem verticalAt_congr (halike : List.Forall₂ LooksAlike rows others)
    (hstart : start < rows.length) :
    verticalAt options rows start = verticalAt options others start := by
  have hlook := looksAlike_rowAt halike start
  rw [verticalAt, verticalAt, verticalEnd_congr halike hstart, hlook.textColumns_eq,
    hlook.textHeaders_eq]

theorem tableAt?_congr (options : ScanOptions) (halike : List.Forall₂ LooksAlike rows others)
    (hstart : start < rows.length) :
    tableAt? options rows start = tableAt? options others start := by
  have hlook := looksAlike_rowAt halike start
  have hstarts := hlook.startsMatrix_eq (looksAlike_rowAt halike (start + 1))
  cases hrows : startsMatrix (rowAt rows start) (rowAt rows (start + 1)) with
  | error e =>
      rw [tableAt?_of_error options hrows, tableAt?_of_error options (hstarts.symm.trans hrows)]
  | ok isMatrix =>
      cases isMatrix with
      | true =>
          rw [tableAt?_of_matrix options hrows,
            tableAt?_of_matrix options (hstarts.symm.trans hrows),
            matrixAt_congr halike hstart (header_of_startsMatrix hrows)]
      | false =>
          rw [tableAt?_of_not_matrix options hrows,
            tableAt?_of_not_matrix options (hstarts.symm.trans hrows), hlook.isVerticalHeader_eq,
            verticalEnd_congr halike hstart, dataRows_congr halike, verticalAt_congr halike hstart]

theorem tablesFrom_congr (options : ScanOptions) (halike : List.Forall₂ LooksAlike rows others)
    (start : Nat) : tablesFrom options rows start = tablesFrom options others start := by
  have hlength := halike.length_eq
  induction start using tablesFrom.induct options rows with
  | case1 start hstart e htable =>
      have hother := (tableAt?_congr options halike hstart).symm.trans htable
      rw [tablesFrom_of_error hstart htable, tablesFrom_of_error (hlength ▸ hstart) hother]
  | case2 start hstart htable ih =>
      have hother := (tableAt?_congr options halike hstart).symm.trans htable
      rw [tablesFrom_of_none hstart htable, tablesFrom_of_none (hlength ▸ hstart) hother, ih]
  | case3 start hstart table htable ih =>
      have hother := (tableAt?_congr options halike hstart).symm.trans htable
      rw [tablesFrom_of_some hstart htable, tablesFrom_of_some (hlength ▸ hstart) hother, ih]
  | case4 start hend =>
      rw [tablesFrom_of_length_le (Nat.not_lt.mp hend),
        tablesFrom_of_length_le (hlength ▸ Nat.not_lt.mp hend)]

theorem looksAlike_normalizedRows (halike : List.Forall₂ LooksAlike rows others) :
    List.Forall₂ LooksAlike (normalizedRows rows) (normalizedRows others) := by
  unfold normalizedRows
  rw [List.forall₂_map_left_iff, List.forall₂_map_right_iff]
  exact halike.imp fun _ _ hlook => hlook.normalized

end Sheets
end Table

/-- A sheet has the tables of every sheet that looks like it: blank cells may be replaced by other
blank cells, and blank cells may be put or taken away at the right ends of rows. -/
theorem scanTables_of_looksAlike (options : ScanOptions) {rows others : List Row}
    (halike : List.Forall₂ Table.LooksAlike rows others) :
    scanTables options rows = scanTables options others ∧
      (Coercible rows → ∃ tables,
        scanTables options rows = .ok tables ∧ scanTables options others = .ok tables) := by
  have hsame : scanTables options rows = scanTables options others := by
    rw [scanTables_eq_tablesFrom, scanTables_eq_tablesFrom,
      Table.tablesFrom_congr options (Table.looksAlike_normalizedRows halike)]
  refine ⟨hsame, ?_⟩
  intro hrows
  obtain ⟨tables, htables⟩ := exists_scanTables options hrows
  exact ⟨tables, htables, hsame.symm.trans htables⟩

theorem scanTables_of_looksAlike_padded :
    let options : ScanOptions := ⟨50, 100, 1⟩
    let rows : List Row :=
      [[.empty, .text "Jan"], [.text "rent", .text "7"], [], [.text "name", .text "town"],
        [.text "Ann", .text "Bonn"]]
    let others : List Row :=
      [[.text " ", .text "Jan"], [.text "rent", .text "7", .double .nan], [.text "", .text "\t"],
        [.text "name", .text "town", .empty], [.text "Ann", .text "Bonn"]]
    List.Forall₂ Table.LooksAlike rows others ∧ Coercible rows ∧
      ∃ tables, scanTables options others = .ok tables ∧
        tables =
          [⟨0, 1, 0, 1, ["", "Jan"], .matrix⟩, ⟨3, 4, 0, 1, ["name", "town"], .vertical⟩] := by
  intro options rows others
  have hcorner : Table.LooksAlike [.empty, .text "Jan"] [.text " ", .text "Jan"] :=
    Table.LooksAlike.set_blank 0 rfl rfl (by decide +kernel)
  have halike : List.Forall₂ Table.LooksAlike rows others :=
    .cons hcorner (.cons (.append_blanks rfl) (.cons (.append_blanks (by decide +kernel))
      (.cons (.append_blanks rfl) (.cons (.refl _) .nil))))
  have hrows : Coercible rows := by
    simp [Coercible, CoercibleRow, rows, Cell.number]
  obtain ⟨tables, hscan, hother⟩ := (scanTables_of_looksAlike options halike).2 hrows
  have hfound : Table.tablesFrom options (normalizedRows rows) 0 =
      .ok [⟨0, 1, 0, 1, ["", "Jan"], .matrix⟩, ⟨3, 4, 0, 1, ["name", "town"], .vertical⟩] := by
    decide +kernel
  refine ⟨halike, hrows, tables, hother, ?_⟩
  rw [scanTables_eq_tablesFrom, hfound] at hscan
  cases hscan
  rfl

end SheetAudit
