import Mathlib.Order.Interval.Set.Defs
import Mathlib.Tactic
import SheetAudit.Proofs.SheetCells

/-!
# Sheets in chunks

The rows of a sheet are gathered one by one, and a chunk is handed out as soon as it is full.  The
chunks then hold the rows of the sheet in order, all of them but the last are full, and each one
starts where those above it end.  That settles where a cell is found: one chunk has its row, and no
other chunk answers for it.
-/

namespace SheetAudit

/-! ## Pieces of one size -/

theorem pieces_append {α : Type} {size : Nat} (hsize : 0 < size) {part : List α}
    (hpart : part.length = size) (xs : List α) :
    pieces size (part ++ xs) = part :: pieces size xs := by
  have hne : part ++ xs ≠ [] := by
    apply List.append_ne_nil_of_left_ne_nil
    exact List.length_pos_iff.mp (hpart ▸ hsize)
  rw [pieces_of_ne_nil hsize hne, List.take_left' hpart, List.drop_left' hpart]

theorem pieces_of_length_le {α : Type} {size : Nat} {xs : List α} (hxs : xs ≠ [])
    (hlength : xs.length ≤ size) : pieces size xs = [xs] := by
  have hsize : 0 < size := (List.length_pos_iff.mpr hxs).trans_le hlength
  rw [pieces_of_ne_nil hsize hxs, List.take_of_length_le hlength, List.drop_eq_nil_of_le hlength,
    pieces_nil]

theorem length_le_of_mem_pieces {α : Type} {size : Nat} (hsize : 0 < size) {xs part : List α}
    (hpart : part ∈ pieces size xs) : part.length ≤ size := by
  induction xs using pieces_induction hsize with
  | nil => simp [pieces_nil] at hpart
  | cut xs hxs ih =>
      rw [pieces_of_ne_nil hsize hxs, List.mem_cons] at hpart
      cases hpart with
      | inl hfirst =>
          rw [hfirst]
          exact List.length_take_le size xs
      | inr hlater => exact ih hlater

theorem length_eq_of_mem_dropLast_pieces {α : Type} {size : Nat} (hsize : 0 < size)
    {xs part : List α} (hpart : part ∈ (pieces size xs).dropLast) : part.length = size := by
  induction xs using pieces_induction hsize with
  | nil => simp [pieces_nil] at hpart
  | cut xs hxs ih =>
      rw [pieces_of_ne_nil hsize hxs] at hpart
      by_cases hrest : xs.drop size = []
      · simp [hrest, pieces_nil] at hpart
      · have hlater : pieces size (xs.drop size) ≠ [] := by
          rw [pieces_of_ne_nil hsize hrest]
          exact List.cons_ne_nil _ _
        rw [List.dropLast_cons_of_ne_nil hlater, List.mem_cons] at hpart
        cases hpart with
        | inl hfirst =>
            rw [List.drop_eq_nil_iff, not_le] at hrest
            rw [hfirst, List.length_take, min_eq_left hrest.le]
        | inr hlater => exact ih hlater

/-! ## Rows gathered one by one -/

/-- Fewer rows are gathered than fill a chunk, which is what carries the induction. -/
theorem gatherChunks_eq_numberedChunks {size : Nat} {gathered : List Row}
    (hgathered : gathered.length < size) (start : Nat) (rows : List Row) :
    gatherChunks size start gathered rows =
      numberedChunks start (pieces size (gathered ++ rows)) := by
  have hempty : ([] : List Row).length < size := by
    rw [List.length_nil]
    omega
  induction rows generalizing start gathered with
  | nil =>
      rw [List.append_nil]
      by_cases hnone : gathered = []
      · subst hnone
        rw [pieces_nil]
        rfl
      · rw [pieces_of_length_le hnone hgathered.le, gatherChunks,
          if_neg (by simpa using hnone)]
        rfl
  | cons row rows ih =>
      have hheld : (gathered ++ [row]).length = gathered.length + 1 := by simp
      rw [List.append_cons, gatherChunks]
      by_cases hfull : (gathered ++ [row]).length = size
      · rw [if_pos hfull, pieces_append hempty hfull, numberedChunks, ih hempty, List.nil_append]
      · rw [if_neg hfull, ih (by omega)]

theorem gatherChunks_eq_chunksOf {size : Nat} (hsize : 0 < size) (rows : List Row) :
    gatherChunks size 0 [] rows = chunksOf size rows := by
  have hempty : ([] : List Row).length < size := hsize
  rw [gatherChunks_eq_numberedChunks hempty, List.nil_append, chunksOf]

/-! ## The chunks of a sheet -/

theorem map_rows_numberedChunks (start : Nat) (parts : List (List Row)) :
    (numberedChunks start parts).map (·.rows) = parts := by
  induction parts generalizing start with
  | nil => rfl
  | cons part parts ih => rw [numberedChunks, List.map_cons, ih]

theorem start_of_numberedChunks {start : Nat} {parts : List (List Row)}
    {above below : List RowChunk} {chunk : RowChunk}
    (hchunks : numberedChunks start parts = above ++ chunk :: below) :
    chunk.start = start + (above.flatMap (·.rows)).length := by
  induction above generalizing start parts with
  | nil =>
      cases parts with
      | nil => cases hchunks
      | cons part parts =>
          cases hchunks
          simp
  | cons other above ih =>
      cases parts with
      | nil => cases hchunks
      | cons part parts =>
          rw [numberedChunks, List.cons_append, List.cons.injEq] at hchunks
          obtain ⟨rfl, hrest⟩ := hchunks
          rw [ih hrest, List.flatMap_cons, List.length_append]
          push_cast
          ring

/-- Chunks hold the rows of a sheet in order.  All of them but the last are full, and each one
starts below the rows of those above it. -/
structure Chunking (size : Nat) (rows : List Row) (chunks : List RowChunk) : Prop where
  rows_ne_nil : ∀ chunk ∈ chunks, chunk.rows ≠ []
  length_eq : ∀ chunk ∈ chunks.dropLast, chunk.rows.length = size
  length_le : ∀ chunk ∈ chunks, chunk.rows.length ≤ size
  start_eq : ∀ above chunk below, chunks = above ++ chunk :: below →
    chunk.start = (above.flatMap (·.rows)).length
  flatMap_rows : chunks.flatMap (·.rows) = rows

theorem chunking_chunksOf {size : Nat} (hsize : 0 < size) (rows : List Row) :
    Chunking size rows (chunksOf size rows) := by
  have hrows : (chunksOf size rows).map (·.rows) = pieces size rows :=
    map_rows_numberedChunks 0 _
  have hpart : ∀ chunk ∈ chunksOf size rows, chunk.rows ∈ pieces size rows := by
    intro chunk hchunk
    rw [← hrows]
    exact List.mem_map_of_mem hchunk
  constructor
  · intro chunk hchunk
    exact ne_nil_of_mem_pieces hsize (hpart chunk hchunk)
  · intro chunk hchunk
    have hearly : chunk.rows ∈ (pieces size rows).dropLast := by
      rw [← hrows, ← List.map_dropLast]
      exact List.mem_map_of_mem hchunk
    exact length_eq_of_mem_dropLast_pieces hsize hearly
  · intro chunk hchunk
    exact length_le_of_mem_pieces hsize (hpart chunk hchunk)
  · intro above chunk below hchunks
    simpa using start_of_numberedChunks hchunks
  · rw [List.flatMap_def, hrows, flatten_pieces hsize]

/-! ## The chunk of a row -/

theorem exists_chunk_of_lt {chunks : List RowChunk} {place : Nat}
    (hplace : place < (chunks.flatMap (·.rows)).length) :
    ∃ above chunk below, chunks = above ++ chunk :: below ∧
      (above.flatMap (·.rows)).length ≤ place ∧
      place < (above.flatMap (·.rows)).length + chunk.rows.length := by
  induction chunks generalizing place with
  | nil => simp at hplace
  | cons chunk chunks ih =>
      rw [List.flatMap_cons, List.length_append] at hplace
      by_cases hhere : place < chunk.rows.length
      · exact ⟨[], chunk, chunks, rfl, by simp, by simpa using hhere⟩
      · have hlater : place - chunk.rows.length < (chunks.flatMap (·.rows)).length := by omega
        obtain ⟨above, other, below, hchunks, hstart, hstop⟩ := ih hlater
        refine ⟨chunk :: above, other, below, ?_, ?_, ?_⟩
        · rw [hchunks, List.cons_append]
        · rw [List.flatMap_cons, List.length_append]
          omega
        · rw [List.flatMap_cons, List.length_append]
          omega

namespace RowChunk

theorem valueAt?_eq_some_valueAt (chunk : RowChunk) {address : Address}
    (hcol : 0 ≤ address.col) : chunk.valueAt? address = some (chunk.valueAt address) := by
  have hsome : (chunk.valueAt? address).isSome := by
    unfold valueAt?
    split
    · rfl
    · next row _ =>
      split
      · rfl
      · next hlength =>
        rw [itemAt?_of_nonneg row hcol, List.getElem?_eq_getElem (by omega)]
        rfl
  obtain ⟨cell, hcell⟩ := Option.isSome_iff_exists.mp hsome
  rw [valueAt, hcell, Option.getD_some]

theorem valueAt?_eq_some_cellOf (chunk : RowChunk) {address : Address}
    (hcol : 0 ≤ address.col) :
    chunk.valueAt? address =
      some (cellOf chunk.rows ⟨address.row - chunk.start, address.col⟩) := by
  rw [chunk.valueAt?_eq_some_valueAt hcol, chunk.valueAt_eq_cellOf hcol]

theorem valueAt?_of_notMem {chunk : RowChunk} {address : Address} (hcol : 0 ≤ address.col)
    (hrow : address.row ∉ Set.Icc chunk.start chunk.stop) :
    chunk.valueAt? address = some .empty := by
  rw [chunk.valueAt?_eq_some_cellOf hcol]
  by_cases habove : address.row < chunk.start
  · have hnegative : address.row - chunk.start < 0 := by omega
    rw [cellOf, if_pos hnegative]
  · rw [Set.mem_Icc, stop] at hrow
    rw [cellOf_of_length_le (by simp only; omega)]

end RowChunk

namespace Chunking

variable {size : Nat} {rows : List Row} {above middle below : List RowChunk}
  {chunk other : RowChunk} {address : Address}

theorem stop_lt_length (hchunking : Chunking size rows (above ++ chunk :: below)) :
    chunk.stop < rows.length := by
  have hstart := hchunking.start_eq above chunk below rfl
  rw [← hchunking.flatMap_rows, RowChunk.stop, hstart]
  simp only [List.flatMap_append, List.flatMap_cons, List.length_append]
  omega

theorem stop_lt_start
    (hchunking : Chunking size rows (above ++ chunk :: (middle ++ other :: below))) :
    chunk.stop < other.start := by
  have hstart := hchunking.start_eq above chunk _ rfl
  have hother := hchunking.start_eq (above ++ chunk :: middle) other below (by simp)
  rw [hother, RowChunk.stop, hstart]
  simp only [List.flatMap_append, List.flatMap_cons, List.length_append]
  omega

/-- No two chunks have a row in common. -/
theorem notMem_of_mem {row : Int} (hchunking : Chunking size rows (above ++ chunk :: below))
    (hrow : row ∈ Set.Icc chunk.start chunk.stop) (hother : other ∈ above ++ below) :
    row ∉ Set.Icc other.start other.stop := by
  intro hin
  rw [Set.mem_Icc] at hrow hin
  cases List.mem_append.mp hother with
  | inl habove =>
      obtain ⟨first, middle, rfl⟩ := List.append_of_mem habove
      rw [List.append_assoc, List.cons_append] at hchunking
      have hbefore := hchunking.stop_lt_start
      omega
  | inr hbelow =>
      obtain ⟨middle, last, rfl⟩ := List.append_of_mem hbelow
      have hafter := hchunking.stop_lt_start
      omega

theorem valueAt?_of_mem (hchunking : Chunking size rows (above ++ chunk :: below))
    (hrow : address.row ∈ Set.Icc chunk.start chunk.stop) (hcol : 0 ≤ address.col) :
    chunk.valueAt? address = some (cellOf rows address) := by
  have hrows : rows = above.flatMap (·.rows) ++ (chunk.rows ++ below.flatMap (·.rows)) := by
    rw [← hchunking.flatMap_rows, List.flatMap_append, List.flatMap_cons]
  have hstart := hchunking.start_eq above chunk below rfl
  rw [Set.mem_Icc, RowChunk.stop] at hrow
  rw [chunk.valueAt?_eq_some_cellOf hcol, hrows, cellOf_append_right (by omega),
    cellOf_append_left (by simp only; omega), hstart]

end Chunking

/-- The chunks of a sheet are those of its rows gathered one by one.  They hold the sheet, and the
cell at an address comes from the one chunk that has its row. -/
theorem chunksOf_keep_sheet {size : Nat} (hsize : 1 ≤ size) (rows : List Row) :
    gatherChunks size 0 [] rows = chunksOf size rows ∧
      Chunking size rows (chunksOf size rows) ∧
      ∀ address : Address, 0 ≤ address.row → 0 ≤ address.col →
        (address.row < rows.length →
          ∃ above chunk below, chunksOf size rows = above ++ chunk :: below ∧
            address.row ∈ Set.Icc chunk.start chunk.stop ∧
            chunk.valueAt? address = some (cellOf rows address) ∧
            ∀ other ∈ above ++ below,
              address.row ∉ Set.Icc other.start other.stop ∧
                other.valueAt? address = some .empty) ∧
        (rows.length ≤ address.row →
          ∀ chunk ∈ chunksOf size rows,
            address.row ∉ Set.Icc chunk.start chunk.stop ∧
              chunk.valueAt? address = some .empty) := by
  have hchunking := chunking_chunksOf hsize rows
  refine ⟨gatherChunks_eq_chunksOf hsize rows, hchunking, ?_⟩
  intro address hrow hcol
  constructor
  · intro hlength
    have hplace : address.row.toNat < ((chunksOf size rows).flatMap (·.rows)).length := by
      rw [hchunking.flatMap_rows]
      omega
    obtain ⟨above, chunk, below, hchunks, hstart, hstop⟩ := exists_chunk_of_lt hplace
    rw [hchunks] at hchunking
    have hin : address.row ∈ Set.Icc chunk.start chunk.stop := by
      rw [Set.mem_Icc, RowChunk.stop, hchunking.start_eq above chunk below rfl]
      omega
    refine ⟨above, chunk, below, hchunks, hin, hchunking.valueAt?_of_mem hin hcol, ?_⟩
    intro other hother
    have hout := hchunking.notMem_of_mem hin hother
    exact ⟨hout, RowChunk.valueAt?_of_notMem hcol hout⟩
  · intro hlength chunk hchunk
    obtain ⟨above, below, hchunks⟩ := List.append_of_mem hchunk
    rw [hchunks] at hchunking
    have hstop := hchunking.stop_lt_length
    have hout : address.row ∉ Set.Icc chunk.start chunk.stop := by
      rw [Set.mem_Icc]
      omega
    exact ⟨hout, RowChunk.valueAt?_of_notMem hcol hout⟩

/-- The last of three rows, alone in its chunk, a row that is too short, and a row below them. -/
theorem chunksOf_keep_sheet_ragged :
    let rows : List Row :=
      [[.text "town", .text "people"], [.text "Oslo"], [.text "Rome", .int 3]]
    Chunking 2 rows (chunksOf 2 rows) ∧
      (∃ above chunk below, chunksOf 2 rows = above ++ chunk :: below ∧
        2 ∈ Set.Icc chunk.start chunk.stop ∧
        chunk.valueAt? ⟨2, 1⟩ = some (.int 3) ∧
        ∀ other ∈ above ++ below, other.valueAt? ⟨2, 1⟩ = some .empty) ∧
      (∃ above chunk below, chunksOf 2 rows = above ++ chunk :: below ∧
        1 ∈ Set.Icc chunk.start chunk.stop ∧
        chunk.valueAt? ⟨1, 1⟩ = some .empty) ∧
      ∀ chunk ∈ chunksOf 2 rows, chunk.valueAt? ⟨3, 0⟩ = some .empty := by
  intro rows
  obtain ⟨-, hchunking, hcells⟩ := chunksOf_keep_sheet (show 1 ≤ 2 by decide) rows
  have hlast := (hcells ⟨2, 1⟩ (by decide) (by decide)).1 (by decide)
  have hshort := (hcells ⟨1, 1⟩ (by decide) (by decide)).1 (by decide)
  have hbelow := (hcells ⟨3, 0⟩ (by decide) (by decide)).2 (by decide)
  obtain ⟨above, chunk, below, hchunks, hrow, hcell, hothers⟩ := hlast
  obtain ⟨above', chunk', below', hchunks', hrow', hcell', -⟩ := hshort
  refine ⟨hchunking, ⟨above, chunk, below, hchunks, hrow, hcell, ?_⟩,
    ⟨above', chunk', below', hchunks', hrow', hcell'⟩, ?_⟩
  · intro other hother
    exact (hothers other hother).2
  · intro chunk hchunk
    exact (hbelow chunk hchunk).2

end SheetAudit
