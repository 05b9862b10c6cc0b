import RowCursor.Proofs.Row.Accessors
import RowCursor.Proofs.Value

/-!
# Values of binary rows

A binary row cuts a value out of its packet by the layout of the column's type, and the value
is decoded by the type itself.  What was cut out has the length that the layout says
(`stands_of_valueFrom`), so decoding it fails for dates and times only.
-/

set_option autoImplicit false

namespace RowCursor.PacketRow

variable {row : PacketRow} {index : Nat} {located : Except Error PacketReader}
  {column : ColumnDefinition} {data : Bytes}

/-- The bytes of a value stand as the layout of its type says. -/
theorem stands_of_valueFrom (binary : row.encoding = .binary)
    (known : row.column index = .ok column)
    (answered : row.valueFrom index located = .ok (some data)) :
    ∃ kind, column.type? = some kind ∧
      (kind.binaryLength = .fixed data.length ∨ kind.binaryLength = .lengthEncoded) := by
  rw [valueFrom_of_binary binary known] at answered
  split at answered
  · cases answered
  cases typed : column.type? with
  | none =>
      rw [ColumnDefinition.binaryLength, typed] at answered
      cases answered
  | some kind =>
      rw [ColumnDefinition.binaryLength, typed] at answered
      refine ⟨kind, rfl, ?_⟩
      cases layout : kind.binaryLength with
      | fixed width =>
          simp only [layout] at answered
          obtain ⟨reader, read, _, done, same⟩ := exists_read answered
          cases same
          rw [length_of_readFixed done]
          exact Or.inl rfl
      | lengthEncoded => exact Or.inr rfl
      | unsupported =>
          simp only [layout] at answered
          cases answered

/-- Values of binary rows are decoded exactly, and in step with the layout: for any column of
a known type the value is what the bytes spell, and where a row has a column's bytes, it has
its value, unless these are a date or a time of an unknown length.  The row may have been
read before, and remember anything, if it only read this column or its memory is sound. -/
theorem binary_values_decode_exactly :
    (∀ (column : ColumnDefinition) (kind : ColumnType), column.type? = some kind →
      Value.DecodesExactly column kind) ∧
    ∀ (row : PacketRow) (index : Nat) (value : Option Bytes) (history : List (Sigma RowRead)),
      row.encoding = .binary → (columnValue index).answer row = .ok value →
      row.Undisturbed index history →
      ((∃ error, (Row.getValue .values index).answer (row.afterReads history) = .error error) ↔
        ∃ column kind lengths data, row.column index = .ok column ∧ column.type? = some kind ∧
          kind.temporalLengths? = some lengths ∧ value = some data ∧ data.length ∉ lengths) := by
  refine ⟨fun column kind => Value.decodesExactly, ?_⟩
  intro row index value history binary answered undisturbed
  have first : row.valueFrom index ((find index).answer row) = .ok value := by
    rw [← answered]
    exact (yields_columnValue (row.yields_find_again index) row.found rfl).1.symm
  obtain ⟨column, known⟩ := exists_column_of_checkIndex binary (checkIndex_of_answered first)
  obtain ⟨keeps, found, reads, kept, finds⟩ := exists_found_of_undisturbed undisturbed
  rw [reads, (yields_getValue .values (yields_columnValue finds) found kept).1, known, first,
    binary]
  cases value with
  | none => simp [bind, Except.bind, ValueFactory.values]
  | some data =>
      obtain ⟨kind, typed, stands⟩ := stands_of_valueFrom binary known first
      have decodes : (∃ error, Value.ofBinary column data = .error error) ↔ _ :=
        Value.exists_error_iff typed stands
      simp [bind, Except.bind, ValueFactory.values, decodes, typed]

/-- A date of five bytes is read from the row and cannot be decoded; its first four bytes are
a date. -/
theorem date_of_five_bytes_has_no_value :
    let data : Bytes := [0xE8, 0x07, 0x02, 0x1D, 0x00]
    let row := binaryRow (0x00 :: 0x00 :: 0x05 :: data) #[.ofType .date]
    let history : List (Sigma RowRead) := [⟨_, .columnValue 0⟩]
    (columnValue 0).answer row = .ok (some data) ∧ row.Undisturbed 0 history ∧
      (∃ error, (Row.getValue .values 0).answer (row.afterReads history) = .error error) ∧
      Value.ofBinary (.ofType .date) (data.take 4) = .ok (.timestamp (.date ⟨2024, 2, 29⟩)) := by
  intro data row history
  have answered : (columnValue 0).answer row = .ok (some data) := by decide +kernel
  have undisturbed : row.Undisturbed 0 history := Or.inr (by decide)
  obtain ⟨exact, fails⟩ := binary_values_decode_exactly
  have date := exact (.ofType .date) .date (by decide)
  refine ⟨answered, undisturbed, ?_, ?_⟩
  · refine (fails row 0 (some data) history rfl answered undisturbed).mpr ?_
    exact ⟨_, .date, Timestamp.lengths, data, rfl, by decide, rfl, rfl, by decide⟩
  · exact (date.moment (by decide) _ _).mpr ⟨.date ⟨2024, 2, 29⟩, rfl, rfl⟩

end RowCursor.PacketRow
