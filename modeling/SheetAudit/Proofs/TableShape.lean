import Mathlib.Tactic
import SheetAudit.Proofs.BlankSeparator
import SheetAudit.Proofs.CoercibleRows
import SheetAudit.Proofs.RandomAccess
import SheetAudit.Proofs.ScannerRefinement

/-!
# The shape of tables

Every table that is found in a sheet lies inside the sheet, has at least one row below its header
and no blank row, and ends where its layout says that it must.  Tables come in the order of their
rows and have no row in common.

A table is found by asking for its last row at once, so each of these facts is one about the
greatest row that a table can reach.
-/

namespace SheetAudit

open Outcome

namespace Table

/-! ## What is true of a table in a sheet -/

/-- A vertical table has enough rows with data, and ends above a blank row, at the end of the sheet
or at its lookahead. -/
structure IsVertical (options : ScanOptions) (rows : List Row) (table : Table) : Prop where
  reach : (table.endRow : Int) ≤ table.startRow + options.verticalLookahead
  data : options.minDataRows ≤ dataRows rows table.startRow table.endRow
  headers : table.headers = textHeaders (rowAt rows table.startRow)
  wide : 2 ≤ table.headers.length
  stop : (table.endRow + 1 < rows.length ∧ isBlankRow (rowAt rows (table.endRow + 1)) = true) ∨
    table.endRow + 1 = rows.length ∨
    (table.endRow : Int) = table.startRow + options.verticalLookahead

/-- A matrix has a label in every row below its header and shows nothing beyond its last column,
and ends above a row without a label, at the end of the sheet or at its lookahead. -/
structure IsMatrix (options : ScanOptions) (rows : List Row) (table : Table) : Prop where
  fromLeft : table.startCol = 0
  reach : (table.endRow : Int) ≤ table.startRow + options.matrixLookahead
  labels : ∀ i ∈ Finset.Ioc table.startRow table.endRow, isLabelRow (rowAt rows i) = true
  right : ∀ i ∈ Finset.Icc table.startRow table.endRow, ∀ col cell,
    (rowAt rows i)[col]? = some cell → cell.isBlank = false → col ≤ table.endCol
  stop : (table.endRow + 1 < rows.length ∧ isLabelRow (rowAt rows (table.endRow + 1)) = false) ∨
    table.endRow + 1 = rows.length ∨
    (table.endRow : Int) = table.startRow + options.matrixLookahead

structure WellFormed (options : ScanOptions) (rows : List Row) (table : Table) : Prop where
  rows_lt : table.startRow < table.endRow
  endRow_lt : table.endRow < rows.length
  cols_lt : table.startCol < table.endCol
  endCol_lt : ∃ i ∈ Finset.Icc table.startRow table.endRow, table.endCol < (rowAt rows i).length
  shown : ∀ i ∈ Finset.Icc table.startRow table.endRow, isBlankRow (rowAt rows i) = false
  vertical : table.kind = .vertical → table.IsVertical options rows
  matrix : table.kind = .matrix → table.IsMatrix options rows

variable {options : ScanOptions} {rows : List Row} {start : Nat}

/-! ## Where a table ends -/

/-- Below the last row reached there is a row that does not fit, or the limit. -/
theorem lastReached_stops {fits : Row → Bool} (limit : Int) (hempty : fits [] = false)
    (hstart : start < rows.length) :
    fits (rowAt rows (lastReached fits limit rows start + 1)) = false ∨
      limit < (lastReached fits limit rows start : Int) + 1 := by
  have hgreatest := isGreatest_lastReached limit hempty hstart
  by_contra hgoesOn
  rw [not_or, Bool.not_eq_false, Int.not_lt] at hgoesOn
  have hnext : Reaches fits limit rows start (lastReached fits limit rows start + 1) :=
    (reaches_succ_iff (le_lastReached hstart.le)).mpr ⟨hgreatest.1, hgoesOn.2, hgoesOn.1⟩
  have hle := hgreatest.2 hnext
  omega

/-- A table ends above a row that does not fit, at the end of the sheet or at its limit. -/
theorem lastReached_cases {fits : Row → Bool} {limit : Int} {last : Nat} (hempty : fits [] = false)
    (hstart : start < rows.length) (hlimit : (start : Int) ≤ limit)
    (hlast : lastReached fits limit rows start = last) :
    (last : Int) ≤ limit ∧
      ((last + 1 < rows.length ∧ fits (rowAt rows (last + 1)) = false) ∨
        last + 1 = rows.length ∨ (last : Int) = limit) := by
  subst hlast
  have hinside : lastReached fits limit rows start < rows.length := lastReached_lt hempty hstart
  have hwhole : Reaches fits limit rows start (lastReached fits limit rows start) :=
    reaches_lastReached hstart.le
  have hreach : (lastReached fits limit rows start : Int) ≤ limit := by
    rcases hwhole.1 with hself | hle
    · omega
    · exact hle
  refine ⟨hreach, ?_⟩
  rcases lastReached_stops limit hempty hstart with hmisfit | hbeyond
  · rcases Nat.lt_or_ge (lastReached fits limit rows start + 1) rows.length with hbelow | hend
    · exact .inl ⟨hbelow, hmisfit⟩
    · exact .inr (.inl (by omega))
  · exact .inr (.inr (by omega))

/-! ## Columns that show something -/

theorem le_rightmost {row : Row} {col : Nat} {cell : Cell} (hcell : row[col]? = some cell)
    (hshown : cell.isBlank = false) : col ≤ rightmost row := by
  have hcol : col ∈ (Finset.range row.length).filter fun col => row[col]?.any (!·.isBlank) := by
    rw [Finset.mem_filter, Finset.mem_range, hcell]
    exact ⟨(List.getElem?_eq_some_iff.mp hcell).1, by simp [hshown]⟩
  exact Finset.le_sup (f := id) hcol

theorem rightmost_lt_length {row : Row} (hpos : 0 < rightmost row) :
    rightmost row < row.length := by
  unfold rightmost at hpos ⊢
  rw [Finset.sup_lt_iff]
  · intro col hcol
    exact Finset.mem_range.mp (Finset.mem_filter.mp hcol).1
  · by_contra hempty
    have hnil : row = [] := List.length_eq_zero_iff.mp (Nat.le_zero.mp (Nat.not_lt.mp hempty))
    rw [hnil] at hpos
    exact absurd hpos (by decide)

theorem rightmost_le_lastShown {last i : Nat} (hi : i ∈ Finset.Icc start last) :
    rightmost (rowAt rows i) ≤ lastShown rows start last :=
  Finset.le_sup (f := fun i => rightmost (rowAt rows i)) hi

theorem exists_rightmost_eq_lastShown (rows : List Row) {last : Nat} (hlast : start ≤ last) :
    ∃ i ∈ Finset.Icc start last, rightmost (rowAt rows i) = lastShown rows start last := by
  have hrows : (Finset.Icc start last).Nonempty := Finset.nonempty_Icc.mpr hlast
  obtain ⟨i, hi, hsup⟩ := Finset.exists_mem_eq_sup _ hrows fun i => rightmost (rowAt rows i)
  exact ⟨i, hi, hsup.symm⟩

/-- The header row of a matrix has a text beyond its corner. -/
theorem rightmost_pos_of_isMatrixHeader {header : Row} (hheader : isMatrixHeader header = true) :
    0 < rightmost header := by
  cases header with
  | nil => cases hheader
  | cons corner cells =>
      simp only [isMatrixHeader, Bool.and_eq_true, Bool.not_eq_true'] at hheader
      obtain ⟨cell, hcell⟩ : ∃ cell, cell ∈ cells.filter (!·.isBlank) := by
        apply List.exists_mem_of_ne_nil
        simpa using hheader.1.2
      rw [List.mem_filter, Bool.not_eq_true'] at hcell
      obtain ⟨k, hk⟩ := List.mem_iff_getElem?.mp hcell.1
      have hle : k + 1 ≤ rightmost (corner :: cells) := le_rightmost (by simpa using hk) hcell.2
      omega

/-! ## Columns of texts -/

theorem length_textHeaders (row : Row) :
    (textHeaders row).length = (textColumns row).length := by
  have hfrom (first : Nat) :
      (textColumnsFrom first row).length = (row.filter Cell.isText).length := by
    induction row generalizing first with
    | nil => rfl
    | cons cell cells ih =>
        rw [textColumnsFrom, List.filter_cons]
        split
        · rw [List.length_cons, List.length_cons, ih]
        · exact ih (first + 1)
  rw [textHeaders, List.length_map, textColumns, hfrom]

/-- Of two or more columns in ascending order the first lies to the left of the last. -/
theorem min_lt_max_textColumns {row : Row} (hheader : isVerticalHeader row = true) :
    (textColumns row).min?.getD 0 < (textColumns row).max?.getD 0 ∧
      (textColumns row).max?.getD 0 < row.length := by
  have hordered := pairwise_textColumnsFrom 0 row
  have hwide : 2 ≤ (textColumns row).length := of_decide_eq_true hheader
  rw [← textColumns] at hordered
  obtain ⟨first, second, others, hcols⟩ : ∃ first second others,
      textColumns row = first :: second :: others := by
    cases hcols : textColumns row with
    | nil => simp [hcols] at hwide
    | cons first rest =>
        cases rest with
        | nil => simp [hcols] at hwide
        | cons second others => exact ⟨first, second, others, rfl⟩
  obtain ⟨least, hleast⟩ : ∃ least, (textColumns row).min? = some least := by
    rw [← Option.isSome_iff_exists, List.isSome_min?_iff, hcols]
    exact List.cons_ne_nil _ _
  obtain ⟨greatest, hgreatest⟩ : ∃ greatest, (textColumns row).max? = some greatest := by
    rw [← Option.isSome_iff_exists, List.isSome_max?_iff, hcols]
    exact List.cons_ne_nil _ _
  obtain ⟨_, hmin⟩ := List.min?_eq_some_iff.mp hleast
  obtain ⟨hmem, hmax⟩ := List.max?_eq_some_iff.mp hgreatest
  rw [hleast, hgreatest, Option.getD_some, Option.getD_some]
  constructor
  · have hfirst : least ≤ first := hmin first (by simp [hcols])
    have hsecond : second ≤ greatest := hmax second (by simp [hcols])
    rw [hcols, List.pairwise_cons] at hordered
    have hstep : first < second := hordered.1 second (by simp)
    omega
  · obtain ⟨cell, hcell, _⟩ := mem_textColumns.mp hmem
    exact (List.getElem?_eq_some_iff.mp hcell).1

/-! ## Tables at a row -/

theorem header_of_startsMatrix {header below : Row}
    (hstarts : startsMatrix header below = .ok true) : isMatrixHeader header = true := by
  unfold startsMatrix at hstarts
  split at hstarts
  · next hboth =>
    rw [Bool.and_eq_true] at hboth
    exact hboth.1
  · cases hstarts

theorem isBlankRow_of_isLabelRow {row : Row} (hlabel : isLabelRow row = true) :
    isBlankRow row = false := by
  by_contra hblank
  rw [isLabelRow_of_blank (by simpa using hblank)] at hlabel
  cases hlabel

theorem wellFormed_matrixAt (hlookahead : 1 ≤ options.matrixLookahead)
    (hstart : start < rows.length)
    (hstarts : startsMatrix (rowAt rows start) (rowAt rows (start + 1)) = .ok true) :
    (matrixAt options rows start).WellFormed options rows := by
  have hheader : isMatrixHeader (rowAt rows start) = true := header_of_startsMatrix hstarts
  have hlimit : matrixLimit options start = start + options.matrixLookahead := by
    unfold matrixLimit
    omega
  have hreaches : Reaches isLabelRow (matrixLimit options start) rows start
      (matrixEnd options rows start) := reaches_lastReached hstart.le
  have hnext : Reaches isLabelRow (matrixLimit options start) rows start (start + 1) := by
    rw [reaches_succ_iff (le_refl start), hlimit]
    exact ⟨reaches_self, by omega, label_of_startsMatrix hstarts⟩
  have hrows : start + 1 ≤ matrixEnd options rows start :=
    (isGreatest_lastReached _ rfl hstart).2 hnext
  have hlast : lastReached isLabelRow (start + options.matrixLookahead) rows start =
      matrixEnd options rows start := by
    rw [matrixEnd, hlimit]
  have hends := lastReached_cases rfl hstart (by omega) hlast
  have hcol : 0 < lastShown rows start (matrixEnd options rows start) := by
    have hfirst : start ∈ Finset.Icc start (matrixEnd options rows start) := by
      rw [Finset.mem_Icc]
      omega
    exact (rightmost_pos_of_isMatrixHeader hheader).trans_le (rightmost_le_lastShown hfirst)
  constructor
  · exact hrows
  · exact lastReached_lt rfl hstart
  · exact hcol
  · obtain ⟨i, hi, hright⟩ := exists_rightmost_eq_lastShown rows (Nat.le_of_lt hrows)
    refine ⟨i, hi, ?_⟩
    rw [← hright] at hcol
    have hlength := rightmost_lt_length hcol
    rw [hright] at hlength
    exact hlength
  · intro i hi
    simp only [matrixAt, Finset.mem_Icc] at hi
    rcases Nat.eq_or_lt_of_le hi.1 with rfl | hbelow
    · by_contra hblank
      rw [isMatrixHeader_of_blank (by simpa using hblank)] at hheader
      cases hheader
    · exact isBlankRow_of_isLabelRow (hreaches.2 i (Finset.mem_Ioc.mpr ⟨hbelow, hi.2⟩))
  · intro hkind
    cases hkind
  · intro _
    exact ⟨rfl, hends.1, hreaches.2, fun i hi col cell hcell hshown =>
      (le_rightmost hcell hshown).trans (rightmost_le_lastShown hi), hends.2⟩

theorem wellFormed_verticalAt (hlookahead : 1 ≤ options.verticalLookahead)
    (hmin : 1 ≤ options.minDataRows) (hstart : start < rows.length)
    (hheader : isVerticalHeader (rowAt rows start) = true)
    (henough : options.minDataRows ≤ dataRows rows start (verticalEnd options rows start)) :
    (verticalAt options rows start).WellFormed options rows := by
  have hreaches : Reaches (fun row => !isBlankRow row) (verticalLimit options start) rows start
      (verticalEnd options rows start) := reaches_lastReached hstart.le
  have hle : start ≤ verticalEnd options rows start := le_lastReached hstart.le
  have hrows : start < verticalEnd options rows start := by
    rcases Nat.eq_or_lt_of_le hle with hself | hbelow
    · rw [← hself, dataRows_self] at henough
      omega
    · exact hbelow
  have hends := lastReached_cases rfl hstart (by unfold verticalLimit; omega)
    (rfl : _ = verticalEnd options rows start)
  simp only [Bool.not_eq_false'] at hends
  have hcols := min_lt_max_textColumns hheader
  constructor
  · exact hrows
  · exact lastReached_lt rfl hstart
  · exact hcols.1
  · refine ⟨start, ?_, hcols.2⟩
    simp only [verticalAt, Finset.mem_Icc]
    omega
  · intro i hi
    simp only [verticalAt, Finset.mem_Icc] at hi
    rcases Nat.eq_or_lt_of_le hi.1 with rfl | hbelow
    · by_contra hblank
      rw [isVerticalHeader_of_blank (by simpa using hblank)] at hheader
      cases hheader
    · have hfits := hreaches.2 i (Finset.mem_Ioc.mpr ⟨hbelow, hi.2⟩)
      simpa using hfits
  · intro _
    refine ⟨hends.1, henough, rfl, ?_, hends.2⟩
    simp only [verticalAt, length_textHeaders]
    exact of_decide_eq_true hheader
  · intro hkind
    cases hkind

theorem wellFormed_of_tableAt? (hvertical : 1 ≤ options.verticalLookahead)
    (hmatrix : 1 ≤ options.matrixLookahead) (hmin : 1 ≤ options.minDataRows) {table : Table}
    (hstart : start < rows.length) (htable : tableAt? options rows start = .ok (some table)) :
    table.WellFormed options rows := by
  cases hstarts : startsMatrix (rowAt rows start) (rowAt rows (start + 1)) with
  | error e =>
      rw [tableAt?_of_error options hstarts] at htable
      cases htable
  | ok isMatrix =>
      cases isMatrix with
      | true =>
          rw [tableAt?_of_matrix options hstarts] at htable
          cases htable
          exact wellFormed_matrixAt hmatrix hstart hstarts
      | false =>
          rw [tableAt?_of_not_matrix options hstarts] at htable
          split at htable
          · next hboth =>
            cases htable
            exact wellFormed_verticalAt hvertical hmin hstart hboth.1 hboth.2
          · cases htable

/-! ## All tables of a sheet -/

/-- The tables from a row on start there or below, are well formed and come one below the other. -/
theorem tablesFrom_wellFormed (hvertical : 1 ≤ options.verticalLookahead)
    (hmatrix : 1 ≤ options.matrixLookahead) (hmin : 1 ≤ options.minDataRows)
    {tables : List Table} (htables : tablesFrom options rows start = .ok tables) :
    (∀ table ∈ tables, start ≤ table.startRow ∧ table.WellFormed options rows) ∧
      tables.Pairwise fun above below => above.endRow < below.startRow := by
  induction start using tablesFrom.induct options rows generalizing tables with
  | case1 start hstart e htable =>
      rw [tablesFrom_of_error hstart htable] at htables
      cases htables
  | case2 start hstart htable ih =>
      rw [tablesFrom_of_none hstart htable] at htables
      obtain ⟨hshape, hordered⟩ := ih htables
      refine ⟨fun table hmem => ?_, hordered⟩
      obtain ⟨hfrom, hformed⟩ := hshape table hmem
      exact ⟨by omega, hformed⟩
  | case3 start hstart table htable ih =>
      rw [tablesFrom_of_some hstart htable] at htables
      cases hrest : tablesFrom options rows (table.endRow + 1) with
      | error e =>
          rw [hrest] at htables
          cases htables
      | ok rest =>
          rw [hrest] at htables
          cases htables
          have hrows := rows_of_tableAt? hstart htable
          have hformed := wellFormed_of_tableAt? hvertical hmatrix hmin hstart htable
          obtain ⟨hshape, hordered⟩ := ih hrest
          constructor
          · rw [List.forall_mem_cons]
            refine ⟨⟨hrows.1.ge, hformed⟩, fun other hmem => ?_⟩
            obtain ⟨hfrom, hother⟩ := hshape other hmem
            exact ⟨by omega, hother⟩
          · rw [List.pairwise_cons]
            refine ⟨fun other hmem => ?_, hordered⟩
            have hfrom := (hshape other hmem).1
            omega
  | case4 start hend =>
      rw [tablesFrom_of_length_le (Nat.not_lt.mp hend)] at htables
      cases htables
      simp

/-! ## Rows as they are given -/

theorem rowAt_normalizedRows (rows : List Row) (i : Nat) :
    rowAt (normalizedRows rows) i = (rowAt rows i).map Cell.normalized := by
  rw [rowAt, rowAt, normalizedRows, List.getElem?_map]
  cases rows[i]? <;> rfl

theorem isBlank_normalized (cell : Cell) : cell.normalized.isBlank = cell.isBlank := by
  rw [Cell.isBlank, normalized_normalized, Cell.isBlank]

theorem isText_normalized (cell : Cell) : cell.normalized.isText = cell.isText := by
  cases cell with
  | double value => cases value <;> rfl
  | text value =>
      by_cases hempty : value.isEmpty = true
      · rw [Cell.normalized, if_pos hempty]
        simp [Cell.isText, Cell.isBlank, Cell.normalized, hempty]
      · rw [Cell.normalized, if_neg hempty]
  | _ => rfl

theorem headerText_normalized (cell : Cell) :
    headerText cell.normalized = headerText cell := by
  cases cell with
  | double value => cases value <;> rfl
  | text value =>
      by_cases hempty : value.isEmpty = true
      · rw [Cell.normalized, if_pos hempty]
        exact (String.isEmpty_iff.mp hempty).symm
      · rw [Cell.normalized, if_neg hempty]
  | _ => rfl

theorem isBlankRow_map_normalized (row : Row) :
    isBlankRow (row.map Cell.normalized) = isBlankRow row := by
  rw [isBlankRow, isBlankRow, List.all_map]
  exact congrArg row.all (funext isBlank_normalized)

theorem isLabelRow_map_normalized (row : Row) :
    isLabelRow (row.map Cell.normalized) = isLabelRow row := by
  cases row with
  | nil => rfl
  | cons cell cells => exact isText_normalized cell

theorem textHeaders_map_normalized (row : Row) :
    textHeaders (row.map Cell.normalized) = textHeaders row := by
  have htexts : Cell.isText ∘ Cell.normalized = Cell.isText := funext isText_normalized
  have hshown : headerText ∘ Cell.normalized = headerText := funext headerText_normalized
  rw [textHeaders, textHeaders, List.filter_map, List.map_map, htexts, hshown]

theorem showsUnder_map_normalized (header row : Row) :
    showsUnder (header.map Cell.normalized) (row.map Cell.normalized) = showsUnder header row := by
  rw [showsUnder, showsUnder, List.zip_map, List.any_map]
  congr 1
  funext pair
  simp only [Function.comp_apply, Prod.map_fst, Prod.map_snd, isText_normalized,
    isBlank_normalized]

theorem dataRows_normalizedRows (rows : List Row) (start last : Nat) :
    dataRows (normalizedRows rows) start last = dataRows rows start last := by
  unfold dataRows
  simp only [rowAt_normalizedRows, showsUnder_map_normalized]

/-- Layout sees the rows as they are given: taking empty texts and NaNs as nothing changes neither
what is blank nor what is a text. -/
theorem WellFormed.of_normalizedRows {table : Table}
    (hformed : table.WellFormed options (normalizedRows rows)) :
    table.WellFormed options rows := by
  have hlength : (normalizedRows rows).length = rows.length := List.length_map _
  obtain ⟨hrows, hend, hcols, hinside, hshown, hvertical, hmatrix⟩ := hformed
  rw [hlength] at hend
  simp only [rowAt_normalizedRows, List.length_map] at hinside
  simp only [rowAt_normalizedRows, isBlankRow_map_normalized] at hshown
  refine ⟨hrows, hend, hcols, hinside, hshown, fun hkind => ?_, fun hkind => ?_⟩
  · obtain ⟨hreach, hdata, hheaders, hwide, hstop⟩ := hvertical hkind
    rw [dataRows_normalizedRows] at hdata
    rw [rowAt_normalizedRows, textHeaders_map_normalized] at hheaders
    rw [rowAt_normalizedRows, isBlankRow_map_normalized, hlength] at hstop
    exact ⟨hreach, hdata, hheaders, hwide, hstop⟩
  · obtain ⟨hleft, hreach, hlabels, hright, hstop⟩ := hmatrix hkind
    simp only [rowAt_normalizedRows, isLabelRow_map_normalized] at hlabels
    rw [rowAt_normalizedRows, isLabelRow_map_normalized, hlength] at hstop
    refine ⟨hleft, hreach, hlabels, fun i hi col cell hcell hcellShown => ?_, hstop⟩
    apply hright i hi col cell.normalized
    · rw [rowAt_normalizedRows, List.getElem?_map, hcell]
      rfl
    · rw [isBlank_normalized, hcellShown]

end Table

/-- The tables of a sheet are well formed, and each lies below the one before it. -/
theorem scanTables_wellFormed {options : ScanOptions} (hvertical : 1 ≤ options.verticalLookahead)
    (hmatrix : 1 ≤ options.matrixLookahead) (hmin : 1 ≤ options.minDataRows) {rows : List Row}
    (hrows : Coercible rows) :
    ∃ tables, scanTables options rows = .ok tables ∧
      (∀ table ∈ tables, table.WellFormed options rows) ∧
      tables.Pairwise fun above below => above.endRow < below.startRow := by
  obtain ⟨tables, htables⟩ := Table.exists_tablesFrom options hrows.normalizedRows 0
  obtain ⟨hshape, hordered⟩ := Table.tablesFrom_wellFormed hvertical hmatrix hmin htables
  refine ⟨tables, ?_, fun table hmem => (hshape table hmem).2.of_normalizedRows, hordered⟩
  rw [scanTables_eq_tablesFrom, htables, mapError_ok]

/-- A matrix directly above a list: the matrix stops where the labels stop, the list at the end of
the sheet. -/
theorem scanTables_wellFormed_two_layouts :
    let options : ScanOptions := ⟨50, 100, 1⟩
    let rows : List Row :=
      [[.empty, .text "Jan"], [.text "rent", .text "7"], [.empty, .text "name", .text "town"],
        [.empty, .text "Ann", .text "Bonn"]]
    Coercible rows ∧ ∃ tables, scanTables options rows = .ok tables ∧
      (∀ table ∈ tables, table.WellFormed options rows) ∧
      (tables.Pairwise fun above below => above.endRow < below.startRow) ∧
      tables = [⟨0, 1, 0, 1, ["", "Jan"], .matrix⟩, ⟨2, 3, 1, 2, ["name", "town"], .vertical⟩] := by
  intro options rows
  have hrows : Coercible rows := by
    simp [Coercible, CoercibleRow, rows, Cell.number]
  have hvertical : 1 ≤ options.verticalLookahead := by decide
  have hmatrix : 1 ≤ options.matrixLookahead := by decide
  obtain ⟨tables, hscan, hformed, hordered⟩ :=
    scanTables_wellFormed hvertical hmatrix (by decide) hrows
  have hfound : Table.tablesFrom options (normalizedRows rows) 0 =
      .ok [⟨0, 1, 0, 1, ["", "Jan"], .matrix⟩, ⟨2, 3, 1, 2, ["name", "town"], .vertical⟩] := by
    decide +kernel
  refine ⟨hrows, tables, hscan, hformed, hordered, ?_⟩
  rw [scanTables_eq_tablesFrom, hfound] at hscan
  cases hscan
  rfl

end SheetAudit
