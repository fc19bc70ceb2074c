import Mathlib.Algebra.Order.Interval.Finset.SuccPred
import Mathlib.Order.Interval.Finset.Nat
import Mathlib.Tactic
import SheetAudit.Proofs.Outcome
import SheetAudit.Table.Scanner

/-!
# Tables by random access

A second description of the tables of a sheet.  Here any row can be looked at, at any time and as
often as needed, and a table is found by asking for its last row at once: the greatest row that it
can reach.  There is no scanner, no window and no waiting.
-/

namespace SheetAudit

/-- The rows as a scanner keeps them. -/
def normalizedRows (rows : List Row) : List Row :=
  rows.map fun row => row.map Cell.normalized

namespace Table

/-- The row of a sheet with a number; below the last row all rows are empty. -/
def rowAt (rows : List Row) (i : Nat) : Row := rows[i]?.getD []

/-- A table may reach from its header down to a row if that is not beyond the limit and all rows
below the header are as they should be. -/
def Reaches (fits : Row → Bool) (limit : Int) (rows : List Row) (start last : Nat) : Prop :=
  (last = start ∨ (last : Int) ≤ limit) ∧ ∀ i ∈ Finset.Ioc start last, fits (rowAt rows i)

instance (fits : Row → Bool) (limit : Int) (rows : List Row) (start : Nat) :
    DecidablePred (Reaches fits limit rows start) := fun last =>
  inferInstanceAs (Decidable ((last = start ∨ (last : Int) ≤ limit) ∧
    ∀ i ∈ Finset.Ioc start last, fits (rowAt rows i) = true))

def lastReached (fits : Row → Bool) (limit : Int) (rows : List Row) (start : Nat) : Nat :=
  Nat.findGreatest (Reaches fits limit rows start) rows.length

/-- How far down a matrix may reach: one row below its header, whatever the lookahead. -/
def matrixLimit (options : ScanOptions) (start : Nat) : Int :=
  max (start + 1) (start + options.matrixLookahead)

def verticalLimit (options : ScanOptions) (start : Nat) : Int :=
  start + options.verticalLookahead

def matrixEnd (options : ScanOptions) (rows : List Row) (start : Nat) : Nat :=
  lastReached isLabelRow (matrixLimit options start) rows start

def verticalEnd (options : ScanOptions) (rows : List Row) (start : Nat) : Nat :=
  lastReached (fun row => !isBlankRow row) (verticalLimit options start) rows start

/-- The greatest column of a row that shows something. -/
def rightmost (row : Row) : Nat :=
  ((Finset.range row.length).filter fun col => row[col]?.any (!·.isBlank)).sup id

def lastShown (rows : List Row) (start last : Nat) : Nat :=
  (Finset.Icc start last).sup fun i => rightmost (rowAt rows i)

/-- Whether a row shows something below a text of the header. -/
def showsUnder (header row : Row) : Bool :=
  (header.zip row).any fun pair => pair.1.isText && !pair.2.isBlank

/-- How many rows below a header show something below a text of it. -/
def dataRows (rows : List Row) (start last : Nat) : Nat :=
  ((Finset.Ioc start last).filter fun i => showsUnder (rowAt rows start) (rowAt rows i)).card

def matrixAt (options : ScanOptions) (rows : List Row) (start : Nat) : Table :=
  let last := matrixEnd options rows start
  ⟨start, last, 0, lastShown rows start last, matrixHeaders (rowAt rows start), .matrix⟩

def verticalAt (options : ScanOptions) (rows : List Row) (start : Nat) : Table :=
  let cols := textColumns (rowAt rows start)
  ⟨start, verticalEnd options rows start, cols.min?.getD 0, cols.max?.getD 0,
    textHeaders (rowAt rows start), .vertical⟩

/-- The table headed at a row, if any. -/
def tableAt? (options : ScanOptions) (rows : List Row) (start : Nat) :
    Except CellError (Option Table) := do
  if ← startsMatrix (rowAt rows start) (rowAt rows (start + 1)) then
    pure (some (matrixAt options rows start))
  else if isVerticalHeader (rowAt rows start) &&
      options.minDataRows ≤ dataRows rows start (verticalEnd options rows start) then
    pure (some (verticalAt options rows start))
  else pure none

variable {fits : Row → Bool} {limit : Int} {options : ScanOptions} {rows : List Row}
variable {start last : Nat}

/-! ## Rows by number -/

theorem rowAt_of_length_le (hlength : rows.length ≤ start) : rowAt rows start = [] := by
  rw [rowAt, List.getElem?_eq_none hlength]
  rfl

theorem rowAt_eq_getElem (hstart : start < rows.length) : rowAt rows start = rows[start] := by
  rw [rowAt, List.getElem?_eq_getElem hstart]
  rfl

theorem rowAt_append_left {below : List Row} (hstart : start < rows.length) :
    rowAt (rows ++ below) start = rowAt rows start := by
  rw [rowAt, List.getElem?_append_left hstart]
  rfl

theorem rowAt_append_right (above : List Row) :
    rowAt (above ++ rows) (above.length + start) = rowAt rows start := by
  rw [rowAt, List.getElem?_append_right (by omega)]
  simp [rowAt]

/-- The first of the rows that are left, and those after it, are rows of the sheet. -/
theorem rowAt_of_drop {header : Row} {rest : List Row}
    (hdrop : rows.drop start = header :: rest) :
    rowAt rows start = header ∧ ∀ k, rowAt rows (start + 1 + k) = rest[k]?.getD [] := by
  constructor
  · have hhead := congrArg (fun left => left[0]?) hdrop
    simp only [List.getElem?_drop, Nat.add_zero, List.getElem?_cons_zero] at hhead
    rw [rowAt, hhead]
    rfl
  · intro k
    have hbelow := congrArg (fun left => left[k + 1]?) hdrop
    simp only [List.getElem?_drop, List.getElem?_cons_succ] at hbelow
    rw [rowAt, ← hbelow]
    congr 2
    omega

/-! ## Reaching down -/

theorem reaches_self : Reaches fits limit rows start start := by
  constructor
  · exact .inl rfl
  · simp

theorem reaches_succ_iff (hlast : start ≤ last) :
    Reaches fits limit rows start (last + 1) ↔
      Reaches fits limit rows start last ∧ ((last + 1 : Nat) : Int) ≤ limit ∧
        fits (rowAt rows (last + 1)) := by
  unfold Reaches
  rw [← Finset.insert_Ioc_right_eq_Ioc_add_one hlast, Finset.forall_mem_insert]
  constructor
  · rintro ⟨hlimit, hnext, hrows⟩
    have hbound : ((last + 1 : Nat) : Int) ≤ limit := by
      rcases hlimit with hself | hbound
      · omega
      · exact hbound
    refine ⟨⟨.inr ?_, hrows⟩, hbound, hnext⟩
    omega
  · rintro ⟨⟨_, hrows⟩, hbound, hnext⟩
    exact ⟨.inr hbound, hnext, hrows⟩

/-- A table that reaches down to a row reaches the rows between. -/
theorem Reaches.of_le (hreach : Reaches fits limit rows start last) {i : Nat} (hstart : start ≤ i)
    (hi : i ≤ last) : Reaches fits limit rows start i := by
  induction last, hi using Nat.le_induction with
  | base => exact hreach
  | succ last hlast ih =>
      exact ih ((reaches_succ_iff (hstart.trans hlast)).mp hreach).1

/-- No table reaches below the sheet: the rows there are empty. -/
theorem Reaches.lt_length (hempty : fits [] = false) (hstart : start < rows.length)
    (hreach : Reaches fits limit rows start last) : last < rows.length := by
  by_contra hbelow
  have hlast : last ∈ Finset.Ioc start last := by
    rw [Finset.mem_Ioc]
    omega
  have hfits := hreach.2 last hlast
  rw [rowAt_of_length_le (Nat.not_lt.mp hbelow), hempty] at hfits
  cases hfits

theorem le_lastReached (hstart : start ≤ rows.length) :
    start ≤ lastReached fits limit rows start :=
  Nat.le_findGreatest hstart reaches_self

theorem reaches_lastReached (hstart : start ≤ rows.length) :
    Reaches fits limit rows start (lastReached fits limit rows start) :=
  Nat.findGreatest_spec hstart reaches_self

theorem lastReached_lt (hempty : fits [] = false) (hstart : start < rows.length) :
    lastReached fits limit rows start < rows.length :=
  (reaches_lastReached hstart.le).lt_length hempty hstart

/-- The last row reached is the greatest of all rows that are reached. -/
theorem isGreatest_lastReached (limit : Int) (hempty : fits [] = false)
    (hstart : start < rows.length) :
    IsGreatest {last | Reaches fits limit rows start last}
      (lastReached fits limit rows start) := by
  constructor
  · exact reaches_lastReached hstart.le
  · intro last hreach
    exact Nat.le_findGreatest (hreach.lt_length hempty hstart).le hreach

/-- A table ends at a row it reaches if it does not reach the next one. -/
theorem lastReached_eq (hempty : fits [] = false) (hstart : start < rows.length)
    (hlast : start ≤ last) (hreach : Reaches fits limit rows start last)
    (hnext : ¬ Reaches fits limit rows start (last + 1)) :
    lastReached fits limit rows start = last := by
  apply (isGreatest_lastReached limit hempty hstart).unique
  constructor
  · exact hreach
  · intro other hother
    by_contra hgreater
    exact hnext (Reaches.of_le hother (by omega) (by omega))

/-! ## Columns and data -/

theorem lastFilled?_concat (row : Row) (cell : Cell) :
    lastFilled? (row ++ [cell]) = if cell.isBlank then lastFilled? row else some row.length := by
  rw [lastFilled?, lastFilled?, List.reverse_concat, List.dropWhile_cons]
  split
  · rfl
  · simp

theorem rightmost_concat (row : Row) (cell : Cell) :
    rightmost (row ++ [cell]) = if cell.isBlank then rightmost row else row.length := by
  have hshown : ((Finset.range row.length).filter fun col =>
        (row ++ [cell])[col]?.any (!·.isBlank)) =
      (Finset.range row.length).filter fun col => row[col]?.any (!·.isBlank) := by
    apply Finset.filter_congr
    intro col hcol
    rw [List.getElem?_append_left (Finset.mem_range.mp hcol)]
  have hlast : (row ++ [cell])[row.length]? = some cell := List.getElem?_concat_length
  rw [rightmost, List.length_append, List.length_singleton, Finset.range_add_one,
    Finset.filter_insert, hshown, hlast, Option.any_some]
  by_cases hblank : cell.isBlank
  · simp [hblank, rightmost]
  · have hbelow : ((Finset.range row.length).filter fun col =>
        row[col]?.any (!·.isBlank)).sup id ≤ row.length := by
      apply Finset.sup_le
      intro col hcol
      exact (Finset.mem_range.mp (Finset.mem_filter.mp hcol).1).le
    simp [hblank, hbelow]

theorem lastFilled?_getD (row : Row) : (lastFilled? row).getD 0 = rightmost row := by
  induction row using List.reverseRecOn with
  | nil => rfl
  | append_singleton row cell ih =>
      rw [lastFilled?_concat, rightmost_concat]
      split
      · exact ih
      · rfl

theorem lastShown_self : lastShown rows start start = rightmost (rowAt rows start) := by
  rw [lastShown, Finset.Icc_self, Finset.sup_singleton]

theorem lastShown_succ (hlast : start ≤ last) :
    lastShown rows start (last + 1) =
      max (lastShown rows start last) (rightmost (rowAt rows (last + 1))) := by
  unfold lastShown
  rw [← Finset.insert_Icc_right_eq_Icc_add_one (by omega), Finset.sup_insert]
  exact max_comm _ _

theorem dataRows_self : dataRows rows start start = 0 := by
  rw [dataRows, Finset.Ioc_self]
  rfl

theorem dataRows_succ (hlast : start ≤ last) :
    dataRows rows start (last + 1) =
      if showsUnder (rowAt rows start) (rowAt rows (last + 1)) then dataRows rows start last + 1
      else dataRows rows start last := by
  unfold dataRows
  rw [← Finset.insert_Ioc_right_eq_Ioc_add_one hlast, Finset.filter_insert]
  split
  · rw [Finset.card_insert_of_notMem]
    simp
  · rfl

theorem mem_textColumnsFrom {first col : Nat} {row : Row} :
    col ∈ textColumnsFrom first row ↔
      ∃ k, col = first + k ∧ ∃ cell, row[k]? = some cell ∧ cell.isText := by
  induction row generalizing first with
  | nil => simp [textColumnsFrom]
  | cons cell cells ih =>
      rw [textColumnsFrom, apply_ite (col ∈ ·), List.mem_cons, ih]
      constructor
      · intro hmem
        split at hmem
        · next htext =>
          rcases hmem with rfl | ⟨k, rfl, hcell⟩
          · exact ⟨0, rfl, cell, rfl, htext⟩
          · exact ⟨k + 1, by omega, hcell⟩
        · obtain ⟨k, rfl, hcell⟩ := hmem
          exact ⟨k + 1, by omega, hcell⟩
      · rintro ⟨_ | k, rfl, found, hfound, htext⟩
        · cases hfound
          rw [if_pos htext]
          exact .inl rfl
        · have hcell : ∃ j, first + (k + 1) = first + 1 + j ∧
              ∃ cell, cells[j]? = some cell ∧ cell.isText :=
            ⟨k, by omega, found, hfound, htext⟩
          split
          · exact .inr hcell
          · exact hcell

theorem mem_textColumns {col : Nat} {row : Row} :
    col ∈ textColumns row ↔ ∃ cell, row[col]? = some cell ∧ cell.isText := by
  simp [textColumns, mem_textColumnsFrom]

theorem pairwise_textColumnsFrom (first : Nat) (row : Row) :
    (textColumnsFrom first row).Pairwise (· < ·) := by
  induction row generalizing first with
  | nil => exact List.Pairwise.nil
  | cons cell cells ih =>
      rw [textColumnsFrom]
      split
      · refine List.pairwise_cons.mpr ⟨?_, ih (first + 1)⟩
        intro col hcol
        obtain ⟨k, hk, _⟩ := mem_textColumnsFrom.mp hcol
        omega
      · exact ih (first + 1)

theorem head?_textColumns (row : Row) : (textColumns row).head? = (textColumns row).min? := by
  symm
  apply List.min?_eq_head?
  apply (pairwise_textColumnsFrom 0 row).imp
  intro col other hless
  exact min_eq_left hless.le

theorem getLast?_textColumns (row : Row) :
    (textColumns row).getLast? = (textColumns row).max? := by
  have hordered := pairwise_textColumnsFrom 0 row
  rw [← textColumns] at hordered
  rcases List.eq_nil_or_concat (textColumns row) with hnil | ⟨before, last, hconcat⟩
  · rw [hnil]
    rfl
  · rw [hconcat, List.concat_eq_append] at hordered ⊢
    rw [List.pairwise_append] at hordered
    rw [List.getLast?_concat, eq_comm, List.max?_eq_some_iff]
    constructor
    · simp
    · intro col hcol
      rw [List.mem_append, List.mem_singleton] at hcol
      rcases hcol with hbefore | rfl
      · exact (hordered.2.2 col hbefore last (by simp)).le
      · exact le_refl col

theorem fillsOneOf_textColumns (header row : Row) :
    fillsOneOf (textColumns header) row = showsUnder header row := by
  rw [Bool.eq_iff_iff, fillsOneOf, showsUnder, List.any_eq_true, List.any_eq_true]
  constructor
  · rintro ⟨col, hcol, hshown⟩
    obtain ⟨title, htitle, htext⟩ := mem_textColumns.mp hcol
    obtain ⟨cell, hcell, hblank⟩ := (Option.any_eq_true _ _).mp hshown
    refine ⟨(title, cell), ?_, by simp [htext, hblank]⟩
    exact List.mem_of_getElem? (List.getElem?_zip_eq_some.mpr ⟨htitle, hcell⟩)
  · rintro ⟨⟨title, cell⟩, hpair, hshown⟩
    obtain ⟨col, hcol⟩ := List.mem_iff_getElem?.mp hpair
    obtain ⟨htitle, hcell⟩ := List.getElem?_zip_eq_some.mp hcol
    rw [Bool.and_eq_true] at hshown
    refine ⟨col, mem_textColumns.mpr ⟨title, htitle, hshown.1⟩, ?_⟩
    rw [hcell]
    exact hshown.2

/-! ## The table at a row -/

theorem label_of_startsMatrix {header below : Row}
    (hstarts : startsMatrix header below = .ok true) : isLabelRow below = true := by
  unfold startsMatrix at hstarts
  split at hstarts
  · next hboth =>
    rw [Bool.and_eq_true] at hboth
    exact hboth.2
  · cases hstarts

theorem tableAt?_of_error (options : ScanOptions) {e : CellError}
    (hstarts : startsMatrix (rowAt rows start) (rowAt rows (start + 1)) = .error e) :
    tableAt? options rows start = .error e := by
  rw [tableAt?, hstarts]
  rfl

theorem tableAt?_of_matrix (options : ScanOptions)
    (hstarts : startsMatrix (rowAt rows start) (rowAt rows (start + 1)) = .ok true) :
    tableAt? options rows start = .ok (some (matrixAt options rows start)) := by
  rw [tableAt?, hstarts]
  rfl

theorem tableAt?_of_not_matrix (options : ScanOptions)
    (hstarts : startsMatrix (rowAt rows start) (rowAt rows (start + 1)) = .ok false) :
    tableAt? options rows start =
      .ok (if isVerticalHeader (rowAt rows start) = true ∧
          options.minDataRows ≤ dataRows rows start (verticalEnd options rows start)
        then some (verticalAt options rows start) else none) := by
  rw [tableAt?, hstarts, Outcome.ok_bind, if_neg Bool.false_ne_true]
  simp only [Bool.and_eq_true, decide_eq_true_eq]
  split <;> rfl

/-- A table found at a row is headed by it and reaches down from there, within the sheet. -/
theorem rows_of_tableAt? {table : Table} (hstart : start < rows.length)
    (htable : tableAt? options rows start = .ok (some table)) :
    table.startRow = start ∧ start ≤ table.endRow ∧ table.endRow < rows.length := by
  cases hstarts : startsMatrix (rowAt rows start) (rowAt rows (start + 1)) with
  | error e =>
      rw [tableAt?_of_error options hstarts] at htable
      cases htable
  | ok isMatrix =>
      cases isMatrix with
      | true =>
          rw [tableAt?_of_matrix options hstarts] at htable
          cases htable
          exact ⟨rfl, le_lastReached hstart.le, lastReached_lt rfl hstart⟩
      | false =>
          rw [tableAt?_of_not_matrix options hstarts] at htable
          split at htable
          · cases htable
            exact ⟨rfl, le_lastReached hstart.le, lastReached_lt rfl hstart⟩
          · cases htable

/-- The tables of a sheet from a row on: the table at the row and those below its last row, or,
if there is no table at the row, those below the row. -/
def tablesFrom (options : ScanOptions) (rows : List Row) (start : Nat) :
    Except CellError (List Table) :=
  if _hstart : start < rows.length then
    match _htable : tableAt? options rows start with
    | .error e => .error e
    | .ok none => tablesFrom options rows (start + 1)
    | .ok (some table) =>
      (tablesFrom options rows (table.endRow + 1)).map fun tables => table :: tables
  else .ok []
termination_by rows.length - start
decreasing_by
  · omega
  · have hrows := rows_of_tableAt? _hstart _htable
    omega

theorem tablesFrom_of_length_le (hlength : rows.length ≤ start) :
    tablesFrom options rows start = .ok [] := by
  rw [tablesFrom, dif_neg (Nat.not_lt.mpr hlength)]

theorem tablesFrom_of_lt (hstart : start < rows.length) :
    tablesFrom options rows start = tableAt? options rows start >>= fun found =>
      match found with
      | none => tablesFrom options rows (start + 1)
      | some table =>
        (tablesFrom options rows (table.endRow + 1)).map fun tables => table :: tables := by
  rw [tablesFrom, dif_pos hstart]
  split
  · next htable =>
    rw [htable]
    rfl
  · next htable =>
    rw [htable]
    rfl
  · next htable =>
    rw [htable]
    rfl

theorem tablesFrom_of_error {e : CellError} (hstart : start < rows.length)
    (htable : tableAt? options rows start = .error e) :
    tablesFrom options rows start = .error e := by
  rw [tablesFrom_of_lt hstart, htable]
  rfl

theorem tablesFrom_of_none (hstart : start < rows.length)
    (htable : tableAt? options rows start = .ok none) :
    tablesFrom options rows start = tablesFrom options rows (start + 1) := by
  rw [tablesFrom_of_lt hstart, htable]
  rfl

theorem tablesFrom_of_some {table : Table} (hstart : start < rows.length)
    (htable : tableAt? options rows start = .ok (some table)) :
    tablesFrom options rows start =
      (tablesFrom options rows (table.endRow + 1)).map fun tables => table :: tables := by
  rw [tablesFrom_of_lt hstart, htable]
  rfl

end Table
end SheetAudit
