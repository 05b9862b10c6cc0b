import RowCursor.Proofs.Row.BinaryLayout

/-!
# Columns without a layout

A binary row may have a column whose type the server never sends, or a type that is not
known.  If it is NULL it takes no bytes and does no harm.  If it holds a value, nobody can
tell where that ends, so the first such column is where every search for a later one stops
(`locate_of_stopped`).  Reads before it go on as usual; from it on, a read names the column
that is in its way, unless the column in question is without a value anyway
(`valueAt_of_stopped`).
-/

set_option autoImplicit false

namespace RowCursor.PacketRow

variable {row : PacketRow} {columns : Columns} {bitmap : Bytes} {cells : List Cell}
  {column : ColumnDefinition} {index stop : Nat}

/-- The column holds a value of a type without a layout. -/
structure Stops (row : PacketRow) (index : Nat) (column : ColumnDefinition) : Prop where
  encoding_eq : row.encoding = .binary
  nullFlag_eq : row.nullFlag index = false
  column_eq : row.column index = .ok column
  noLayout : column.binaryLength = .unsupported

theorem Stops.skipColumn_eq (stops : row.Stops index column) (reader : PacketReader) :
    row.skipColumn index reader = .error (row.unsupported index) := by
  unfold skipColumn
  rw [stops.encoding_eq, stops.nullFlag_eq, stops.column_eq]
  simp only [Bool.false_eq_true, if_false, stops.noLayout]

/-- The search for a column behind one without a layout fails there. -/
theorem locate_of_stopped (stops : row.Stops stop column) {reader : PacketReader}
    (located : row.locate stop = .ok reader) (behind : stop < index) :
    row.locate index = .error (row.unsupported stop) := by
  obtain ⟨further, rfl⟩ := Nat.exists_eq_add_of_lt behind
  rw [Nat.add_assoc, locate_add, located]
  change row.walk (further + 1) stop reader = _
  rw [walk, stops.skipColumn_eq]

/-- A read from there on names its own column, if that has no layout either, or else the one
where the search stopped. -/
theorem valueAt_of_stopped (stops : row.Stops stop column) {reader : PacketReader}
    (located : row.locate stop = .ok reader) {definition : ColumnDefinition}
    (known : row.column index = .ok definition) (reached : stop ≤ index) :
    row.valueAt index =
      if row.nullFlag index = true ∨ definition.typeId = ColumnType.null.id then .ok none
      else if definition.binaryLength = .unsupported then .error (row.unsupported index)
      else .error (row.unsupported stop) := by
  rw [valueAt, valueFrom_of_binary stops.encoding_eq known]
  by_cases null : row.nullFlag index = true ∨ definition.typeId = ColumnType.null.id
  · rw [if_pos null, if_pos null]
  · rw [if_neg null, if_neg null]
    by_cases noLayout : definition.binaryLength = .unsupported
    · rw [if_pos noLayout, noLayout]
    · -- A column with a layout is another one, so it lies behind.
      have other : stop ≠ index := by
        rintro rfl
        rw [stops.column_eq] at known
        cases known
        exact noLayout stops.noLayout
      have lost := locate_of_stopped stops located (Nat.lt_of_le_of_ne reached other)
      rw [if_neg noLayout, lost]
      cases layout : definition.binaryLength with
      | fixed width => rfl
      | lengthEncoded => rfl
      | unsupported => exact absurd layout noLayout

theorem unsupported_binaryRow (known : columns[index]? = some column) (packet : Bytes) :
    (binaryRow packet columns).unsupported index =
      .unsupportedBinaryType column.typeId index columns.size := by
  simp only [unsupported, binaryRow, Option.getD_some, known, Option.map_some]

/-- The cells in front of the first value without a layout are read as they were written, in
any order of reads and whatever bytes stand behind them.  From there on a NULL column has no
value, nor has one of the NULL type, and any other fails with its own place and type if it has
no layout itself, and else with those of the first. -/
theorem unsupported_column_is_reported (introduces : Introduces columns bitmap cells)
    (fits : ∀ cell ∈ cells, cell.WellFormed) (first : columns[cells.length]? = some column)
    (noLayout : column.binaryLength = .unsupported)
    (holds : (ofLittleEndian bitmap).testBit (cells.length + 2) = false) (rest : Bytes) :
    ∃ row, ofPacketWith? (0x00 :: (bitmap ++ (cells.flatMap Cell.encode ++ rest))) .binary
        columns = .ok row ∧
      ∀ history : List (Sigma RowRead),
        (∀ (index : Nat) (inside : index < cells.length),
          (columnValue index).answer (row.afterReads history) = .ok cells[index].value) ∧
        ∀ (index : Nat) (inside : index < columns.size), cells.length ≤ index →
          (columnValue index).answer (row.afterReads history) =
            if (ofLittleEndian bitmap).testBit (index + 2) = true ∨
                columns[index].typeId = ColumnType.null.id then .ok none
            else if columns[index].binaryLength = .unsupported then
              .error (.unsupportedBinaryType columns[index].typeId index columns.size)
            else .error (.unsupportedBinaryType column.typeId cells.length columns.size) := by
  have complete := introduces.length_eq
  have begins := beginsRow_of_bitmap complete (cells.flatMap Cell.encode ++ rest)
  have starts := binaryPrefix_of_introduces introduces fits rest
  have sound := cacheSound_binaryRow begins
  obtain ⟨within, _⟩ := Array.getElem?_eq_some_iff.mp first
  -- The search for the first value without a layout itself succeeds, behind the cells.
  have stopWithin : cells.length ≤ (cells.map Cell.encode).length :=
    Nat.le_of_eq (List.length_map _).symm
  have located := starts.laidOut.locate_eq stopWithin
  refine ⟨_, begins.ofPacketWith?_eq, ?_⟩
  intro history
  constructor
  · intro index inside
    exact (answer_afterReads sound history (.columnValue index)).trans (starts.reads_eq inside).1
  · intro index inside reached
    have known : columns[index]? = some columns[index] := Array.getElem?_eq_getElem inside
    have stops : (binaryRow (0x00 :: (bitmap ++ (cells.flatMap Cell.encode ++ rest)))
        columns).Stops cells.length column :=
      ⟨rfl, by rw [nullFlag_of_bitmap complete within, holds], column_binaryRow first _, noLayout⟩
    have answer := valueAt_of_stopped stops located (column_binaryRow known _) reached
    rw [nullFlag_of_bitmap complete inside, unsupported_binaryRow known,
      unsupported_binaryRow first] at answer
    exact (answer_afterReads sound history (.columnValue index)).trans answer

/-- A number, a value of a type that is never sent, a NULL of another such type, a byte, a
column of the NULL type and one of unknown type, read from behind. -/
theorem columns_around_unsent_type :
    let columns : Columns := #[.ofType .long, .ofType .dateTime2, .ofType .time2, .ofType .tiny,
      .ofType .null, .ofTypeId 0x42]
    let cells : List Cell := [⟨.ofType .long, some [1, 0, 0, 0]⟩]
    let history : List (Sigma RowRead) := [⟨_, .columnValue 5⟩, ⟨_, .length 3⟩, ⟨_, .isNull 9⟩]
    Introduces columns [0x10] cells ∧ (∀ cell ∈ cells, cell.WellFormed) ∧
      ∃ row, ofPacketWith? (0x00 :: ([0x10] ++ (cells.flatMap Cell.encode ++ [7]))) .binary
          columns = .ok row ∧
        (columnValue 0).answer (row.afterReads history) = .ok (some [1, 0, 0, 0]) ∧
        (columnValue 1).answer (row.afterReads history) =
          .error (.unsupportedBinaryType 0x12 1 6) ∧
        (columnValue 2).answer (row.afterReads history) = .ok none ∧
        (columnValue 3).answer (row.afterReads history) =
          .error (.unsupportedBinaryType 0x12 1 6) ∧
        (columnValue 4).answer (row.afterReads history) = .ok none ∧
        (columnValue 5).answer (row.afterReads history) =
          .error (.unsupportedBinaryType 0x42 5 6) := by
  intro columns cells history
  have introduces : Introduces columns [0x10] cells := ⟨by decide, by decide, by decide⟩
  have fits : ∀ cell ∈ cells, cell.WellFormed := by decide
  have first : columns[cells.length]? = some (.ofType .dateTime2) := rfl
  obtain ⟨row, made, reads⟩ :=
    unsupported_column_is_reported introduces fits first rfl (by decide) [7]
  obtain ⟨before, behind⟩ := reads history
  exact ⟨introduces, fits, row, made, before 0 (by decide), behind 1 (by decide) (by decide),
    behind 2 (by decide) (by decide), behind 3 (by decide) (by decide),
    behind 4 (by decide) (by decide), behind 5 (by decide) (by decide)⟩

end RowCursor.PacketRow
