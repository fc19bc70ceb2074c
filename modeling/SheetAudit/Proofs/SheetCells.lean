import Mathlib.Tactic
import SheetAudit.Field
import SheetAudit.Sheet.Source

/-!
# Cells of a sheet in chunks

A sheet is a list of rows, and chunks are cut from it.  This file shows that the chunks hold the
rows of the sheet, and that a cell found in its chunk is the cell of the sheet.  A sheet whose
chunks are taken up to a row answers for all rows up to there.
-/

namespace SheetAudit

/-- The cell of a sheet at an address, empty where the sheet has no such row or the row no such
column. -/
def cellOf (rows : List Row) (address : Address) : Cell :=
  if address.row < 0 then .empty
  else rowCell (rows[address.row.toNat]?.getD []) address.col

/-- The chunks of a sheet that can be read to its end. -/
def sheetStream (size : Nat) (rows : List Row) : ChunkStream FileError :=
  (RowStream.ofRows rows).chunked size

/-! ## Pieces -/

theorem pieces_nil {α : Type} (size : Nat) : pieces size ([] : List α) = [] := by
  rw [pieces]
  simp

theorem pieces_of_ne_nil {α : Type} {size : Nat} (hsize : 0 < size) {xs : List α}
    (hxs : xs ≠ []) : pieces size xs = xs.take size :: pieces size (xs.drop size) := by
  rw [pieces, dif_neg]
  simp only [Bool.or_eq_true, List.isEmpty_iff, beq_iff_eq, not_or]
  exact ⟨hxs, by omega⟩

/-- Induction along the cuts of a list. -/
theorem pieces_induction {α : Type} {size : Nat} (hsize : 0 < size) {motive : List α → Prop}
    (nil : motive []) (cut : ∀ xs, xs ≠ [] → motive (xs.drop size) → motive xs) (xs : List α) :
    motive xs := by
  induction hlength : xs.length using Nat.strong_induction_on generalizing xs with
  | _ length ih =>
      by_cases hxs : xs = []
      · subst hxs
        exact nil
      · have hpos : 0 < xs.length := List.length_pos_iff.mpr hxs
        have hshorter : (xs.drop size).length < length := by
          rw [List.length_drop]
          omega
        exact cut xs hxs (ih _ hshorter _ rfl)

/-- Pieces put together again are the list. -/
theorem flatten_pieces {α : Type} {size : Nat} (hsize : 0 < size) (xs : List α) :
    (pieces size xs).flatten = xs := by
  induction xs using pieces_induction hsize with
  | nil =>
      rw [pieces_nil]
      rfl
  | cut xs hxs ih =>
      rw [pieces_of_ne_nil hsize hxs, List.flatten_cons, ih, List.take_append_drop]

theorem ne_nil_of_mem_pieces {α : Type} {size : Nat} (hsize : 0 < size) {xs part : List α}
    (hpart : part ∈ pieces size xs) : part ≠ [] := by
  induction xs using pieces_induction hsize with
  | nil => simp [pieces_nil] at hpart
  | cut xs hxs ih =>
      rw [pieces_of_ne_nil hsize hxs, List.mem_cons] at hpart
      obtain rfl | hlater := hpart
      · simp only [ne_eq, List.take_eq_nil_iff, not_or]
        exact ⟨by omega, hxs⟩
      · exact ih hlater

/-! ## One chunk -/

theorem itemAt?_of_nonneg {α : Type} (xs : List α) {index : Int} (hindex : 0 ≤ index) :
    itemAt? xs index = xs[index.toNat]? := by
  unfold itemAt?
  rw [if_pos hindex]

/-- A chunk gives the cells of its rows, numbered from its start. -/
theorem RowChunk.valueAt_eq_cellOf (chunk : RowChunk) {address : Address}
    (hcol : 0 ≤ address.col) :
    chunk.valueAt address = cellOf chunk.rows ⟨address.row - chunk.start, address.col⟩ := by
  have hrowCell : ∀ row : Row,
      ((if (row.length : Int) ≤ address.col then some Cell.empty
        else itemAt? row address.col).getD .empty) = rowCell row address.col := by
    intro row
    unfold rowCell
    rw [if_neg (show ¬ address.col < 0 by omega), itemAt?_of_nonneg row hcol]
    split
    · next hlength =>
      rw [List.getElem?_eq_none (by omega)]
      rfl
    · rfl
  unfold valueAt valueAt? rowAt? cellOf
  by_cases hrow : address.row < chunk.start
  · have hbefore : address.row - chunk.start < 0 := by omega
    simp only [if_pos hrow, if_pos hbefore]
    rfl
  · have hfrom : ¬ address.row - chunk.start < 0 := by omega
    simp only [if_neg hrow, if_neg hfrom]
    cases hfound : chunk.rows[(address.row - chunk.start).toNat]? with
    | none =>
        simp only [Option.getD_none]
        unfold rowCell
        split <;> rfl
    | some row => exact hrowCell row

/-! ## Rows that follow each other -/

theorem cellOf_append_left {above below : List Row} {address : Address}
    (hrow : address.row < above.length) :
    cellOf (above ++ below) address = cellOf above address := by
  unfold cellOf
  split
  · rfl
  · rw [List.getElem?_append_left (by omega)]

theorem cellOf_append_right {above below : List Row} {address : Address}
    (hrow : (above.length : Int) ≤ address.row) :
    cellOf (above ++ below) address =
      cellOf below ⟨address.row - above.length, address.col⟩ := by
  have hplace : address.row.toNat - above.length = (address.row - above.length).toNat := by omega
  unfold cellOf
  rw [if_neg (by omega), if_neg (by simp only; omega),
    List.getElem?_append_right (by omega), hplace]

theorem cellOf_nil (address : Address) : cellOf [] address = .empty := by
  simp [cellOf, rowCell]

theorem cellOf_of_length_le {rows : List Row} {address : Address}
    (hbelow : rows.length ≤ address.row) : cellOf rows address = .empty := by
  have hcell : cellOf (rows ++ []) address = cellOf [] ⟨address.row - rows.length, address.col⟩ :=
    cellOf_append_right hbelow
  rwa [List.append_nil, cellOf_nil] at hcell

theorem valueInChunks_cons_of_le {chunk : RowChunk} {chunks : List RowChunk} {address : Address}
    (hstart : chunk.start ≤ address.row) (hstop : address.row ≤ chunk.stop) :
    valueInChunks (chunk :: chunks) address = chunk.valueAt address := by
  have hin : (chunk.start ≤ address.row && address.row ≤ chunk.stop) = true := by
    simp only [Bool.and_eq_true, decide_eq_true_eq]
    exact ⟨hstart, hstop⟩
  simp only [valueInChunks, List.find?_cons, hin]

theorem valueInChunks_cons_of_lt {chunk : RowChunk} {chunks : List RowChunk} {address : Address}
    (hstop : chunk.stop < address.row) :
    valueInChunks (chunk :: chunks) address = valueInChunks chunks address := by
  have hout : (chunk.start ≤ address.row && address.row ≤ chunk.stop) = false := by
    simp only [Bool.and_eq_false_iff, decide_eq_false_iff_not]
    exact Or.inr (by omega)
  simp only [valueInChunks, List.find?_cons, hout]

/-- Chunks taken up to a row hold the cells of all rows up to there. -/
theorem exists_chunksThrough (ε : Type) (last : Int) (start : Nat) {parts : List (List Row)}
    (hparts : ∀ part ∈ parts, part ≠ []) :
    ∃ chunks, chunksThrough last (none : Option ε) (numberedChunks start parts) = .ok chunks ∧
      ∀ address : Address, start ≤ address.row → address.row ≤ last → 0 ≤ address.col →
        valueInChunks chunks address =
          cellOf parts.flatten ⟨address.row - start, address.col⟩ := by
  induction parts generalizing start with
  | nil =>
      refine ⟨[], rfl, ?_⟩
      intro address _ _ _
      rw [List.flatten_nil, cellOf_nil]
      rfl
  | cons part parts ih =>
      have hfirst : 0 < part.length := List.length_pos_iff.mpr (hparts part (by simp))
      let chunk : RowChunk := ⟨start, part⟩
      have hstop : chunk.stop = (start + part.length : Nat) - 1 := by
        simp [RowChunk.stop, chunk]
      have hhere : ∀ address : Address, (start : Int) ≤ address.row →
          address.row ≤ chunk.stop → 0 ≤ address.col → ∀ chunks,
          valueInChunks (chunk :: chunks) address =
            cellOf (part :: parts).flatten ⟨address.row - start, address.col⟩ := by
        intro address hrow hreach hcol chunks
        rw [valueInChunks_cons_of_le hrow hreach, List.flatten_cons,
          cellOf_append_left (by simp only; omega)]
        exact chunk.valueAt_eq_cellOf hcol
      by_cases hlast : last ≤ chunk.stop
      · refine ⟨[chunk], ?_, ?_⟩
        · simp only [numberedChunks, chunksThrough]
          rw [if_pos hlast]
          rfl
        · intro address hrow hreach hcol
          exact hhere address hrow (hreach.trans hlast) hcol []
      · have hothers : ∀ other ∈ parts, other ≠ [] :=
          fun other hother => hparts other (by simp [hother])
        obtain ⟨chunks, hchunks, hvalues⟩ := ih (start + part.length) hothers
        refine ⟨chunk :: chunks, ?_, ?_⟩
        · simp only [numberedChunks, chunksThrough]
          rw [if_neg hlast, hchunks]
          rfl
        · intro address hrow hreach hcol
          by_cases hin : address.row ≤ chunk.stop
          · exact hhere address hrow hin hcol chunks
          · rw [valueInChunks_cons_of_lt (by omega), hvalues address (by omega) hreach hcol,
              List.flatten_cons, cellOf_append_right (by simp only; omega)]
            congr 2
            push_cast
            ring

end SheetAudit
