import RowCursor.Proofs.Row.Accessors
import RowCursor.Proofs.Row.Layout

/-!
# The layout of a text row

A text row is one value behind the other, each behind its length or as the NULL marker.
Each value is read back as it was written, in any order, with or without metadata.  Behind
the last value there is nothing to read: without metadata the packet ends there, with
metadata there is no such column.
-/

set_option autoImplicit false

namespace RowCursor

/-- The bytes of a text row. -/
def textRow (values : List (Option Bytes)) : Bytes :=
  values.flatMap Write.nullableBytesLenenc

/-- The length of the value, if it is not NULL, can be written. -/
def Countable (value : Option Bytes) : Prop := ∀ data ∈ value, data.length < 2 ^ 63

instance (value : Option Bytes) : Decidable (Countable value) :=
  inferInstanceAs (Decidable (∀ data ∈ value, _))

/-! ## One value -/

namespace PacketReader

variable {value : Option Bytes}

theorem readLenencBytes_nullable (packet : Bytes) (countable : Countable value) (rest : Bytes) :
    readLenencBytes ⟨packet, Write.nullableBytesLenenc value ++ rest⟩ =
      .ok (value, ⟨packet, rest⟩) :=
  read_of_reads (Read.reads_nullable countable) packet rest

theorem skipLenencBytes_nullable (packet : Bytes) (countable : Countable value) (rest : Bytes) :
    skipLenencBytes ⟨packet, Write.nullableBytesLenenc value ++ rest⟩ = .ok ⟨packet, rest⟩ := by
  rw [skipLenencBytes_eq, readLenencBytes_nullable packet countable]
  rfl

end PacketReader

namespace PacketRow

variable {row : PacketRow} {value : Option Bytes} {values : List (Option Bytes)}
variable {metadata : Option Columns} {packet rest : Bytes} {index : Nat}

theorem skips_nullable (text : row.encoding = .text) (countable : Countable value) :
    row.Skips index (Write.nullableBytesLenenc value) := by
  intro packet rest
  rw [skipColumn, text]
  exact PacketReader.skipLenencBytes_nullable packet countable rest

/-- What the reads of a column answer when its value begins where the search for it ends. -/
theorem text_reads_of_located (text : row.encoding = .text)
    (allowed : row.checkIndex index = .ok ()) (countable : Countable value)
    (located : row.locate index = .ok ⟨packet, Write.nullableBytesLenenc value ++ rest⟩) :
    row.valueAt index = .ok value ∧ row.isNullAt index = .ok value.isNone ∧
      row.lengthAt index = .ok ((value.map List.length).getD 0) := by
  have answered : row.valueFrom index (row.locate index) = .ok value := by
    rw [valueFrom_of_text text allowed, located]
    change (PacketReader.readLenencBytes ⟨packet, Write.nullableBytesLenenc value ++ rest⟩).map _ = _
    rw [PacketReader.readLenencBytes_nullable packet countable rest]
    rfl
  obtain ⟨size, null⟩ := text_accessors text allowed answered
  exact ⟨answered, null, size⟩

/-! ## A row of values -/

/-- A text row that was not read yet, with the metadata attached if there is any. -/
def textRowWith (values : List (Option Bytes)) (metadata : Option Columns) : PacketRow :=
  { ofText (textRow values) with columns := metadata }

theorem fresh?_text (packet : Bytes) (metadata : Option Columns) :
    fresh? packet .text metadata = .ok { ofText packet with columns := metadata } := by
  cases metadata <;> rfl

theorem laidOut_textRowWith (countable : ∀ value ∈ values, Countable value) :
    (textRowWith values metadata).LaidOut (values.map Write.nullableBytesLenenc) [] := by
  refine ⟨Nat.zero_le _, ?_, ?_⟩
  · rw [List.append_nil, ← List.flatMap_def]
    rfl
  · intro index inside
    rw [List.getElem_map]
    exact skips_nullable rfl (countable _ (List.getElem_mem _))

theorem checkIndex_textRowWith (matching : ∀ columns ∈ metadata, columns.size = values.length)
    (inside : index < values.length) :
    (textRowWith values metadata).checkIndex index = .ok () := by
  cases metadata with
  | none => rfl
  | some columns =>
      have known : index < columns.size := by
        rw [matching columns rfl]
        exact inside
      exact checkIndex_of_column (column_of_attached rfl (Array.getElem?_eq_getElem known))

/-- The search for a column behind the last one is over where the packet is. -/
theorem locate_textRowWith_of_le (countable : ∀ value ∈ values, Countable value)
    (outside : values.length ≤ index) :
    (textRowWith values metadata).locate index = .ok ⟨textRow values, []⟩ ∨
      (textRowWith values metadata).locate index = .error .unexpectedEof := by
  have laidOut : (textRowWith values metadata).LaidOut (values.map Write.nullableBytesLenenc) [] :=
    laidOut_textRowWith countable
  have behind : (textRowWith values metadata).locate values.length = .ok ⟨textRow values, []⟩ := by
    have located := laidOut.locate_eq (Nat.le_of_eq (List.length_map _).symm)
    rwa [List.drop_of_length_le (Nat.le_of_eq (List.length_map _))] at located
  obtain ⟨further, rfl⟩ := Nat.exists_eq_add_of_le outside
  rw [locate_add, behind]
  cases further with
  | zero => exact Or.inl rfl
  | succ further => exact Or.inr rfl

/-- Behind the last value nothing is read. -/
theorem valueAt_textRowWith_of_le (countable : ∀ value ∈ values, Countable value)
    (matching : ∀ columns ∈ metadata, columns.size = values.length)
    (outside : values.length ≤ index) :
    (textRowWith values metadata).valueAt index = .error (match metadata with
      | none => .unexpectedEof
      | some columns => .badUsage (.columnOutOfRange index columns.size)) := by
  cases metadata with
  | none =>
      rw [valueAt, valueFrom_of_text rfl rfl]
      rcases locate_textRowWith_of_le countable outside with located | failed
      · rw [located]
        rfl
      · rw [failed]
        rfl
  | some columns =>
      have unknown : columns.size ≤ index := by
        rw [matching columns rfl]
        exact outside
      exact valueFrom_of_outside rfl unknown

theorem reads_textRowWith (countable : ∀ value ∈ values, Countable value)
    (matching : ∀ columns ∈ metadata, columns.size = values.length)
    (inside : index < values.length) :
    let row := textRowWith values metadata
    row.valueAt index = .ok values[index] ∧ row.isNullAt index = .ok values[index].isNone ∧
      row.lengthAt index = .ok ((values[index].map List.length).getD 0) := by
  have laidOut : (textRowWith values metadata).LaidOut (values.map Write.nullableBytesLenenc) [] :=
    laidOut_textRowWith countable
  have located := laidOut.locate_of_inside (by rwa [List.length_map])
  rw [List.getElem_map] at located
  exact text_reads_of_located rfl (checkIndex_textRowWith matching inside)
    (countable _ (List.getElem_mem inside)) located

/-- Decoding undoes the layout in any order of reads: each read of a column answers its
value, whether it is NULL, and the length of its bytes.  Behind the last value the packet
is over, or the metadata has no column. -/
theorem text_row_reads_back (values : List (Option Bytes))
    (countable : ∀ value ∈ values, Countable value) (metadata : Option Columns)
    (matching : ∀ columns ∈ metadata, columns.size = values.length) :
    ∃ row, fresh? (textRow values) .text metadata = .ok row ∧
      ∀ history : List (Sigma RowRead),
        (∀ (index : Nat) (inside : index < values.length),
          (columnValue index).answer (row.afterReads history) = .ok values[index] ∧
          (isNull index).answer (row.afterReads history) = .ok values[index].isNone ∧
          (length index).answer (row.afterReads history) =
            .ok ((values[index].map List.length).getD 0)) ∧
        ∀ index, values.length ≤ index →
          (columnValue index).answer (row.afterReads history) = .error (match metadata with
            | none => .unexpectedEof
            | some columns => .badUsage (.columnOutOfRange index columns.size)) := by
  have made : fresh? (textRow values) .text metadata = .ok (textRowWith values metadata) :=
    fresh?_text _ _
  have sound := (unread_of_fresh? made).cacheSound
  refine ⟨textRowWith values metadata, made, ?_⟩
  intro history
  constructor
  · intro index inside
    obtain ⟨value, null, length⟩ := reads_textRowWith countable matching inside
    refine ⟨?_, ?_, ?_⟩
    · exact (answer_afterReads sound history (.columnValue index)).trans value
    · exact (answer_afterReads sound history (.isNull index)).trans null
    · exact (answer_afterReads sound history (.length index)).trans length
  · intro index outside
    have failed := valueAt_textRowWith_of_le countable matching outside
    exact (answer_afterReads sound history (.columnValue index)).trans failed

/-- An empty text, a NULL and a text whose length takes a longer form, read from the last
one to the first. -/
theorem empty_null_long_text_row_reads_back :
    let values : List (Option Bytes) := [some [], none, some (List.replicate 251 0x61)]
    let history : List (Sigma RowRead) := [⟨_, .columnValue 2⟩, ⟨_, .length 3⟩, ⟨_, .isNull 1⟩]
    (∀ value ∈ values, Countable value) ∧
      ∃ row, fresh? (textRow values) .text none = .ok row ∧
        (columnValue 0).answer (row.afterReads history) = .ok (some []) ∧
        (isNull 0).answer (row.afterReads history) = .ok false ∧
        (columnValue 3).answer (row.afterReads history) = .error .unexpectedEof := by
  intro values history
  have countable : ∀ value ∈ values, Countable value := by
    intro value member
    rcases List.mem_cons.mp member with rfl | member
    · decide
    rcases List.mem_cons.mp member with rfl | member
    · decide
    intro data present
    rw [List.mem_singleton.mp member, Option.mem_some] at present
    rw [← present, List.length_replicate]
    decide
  have matching : ∀ columns ∈ (none : Option Columns), columns.size = values.length := by
    intro columns missing
    cases missing
  obtain ⟨row, made, reads⟩ := text_row_reads_back values countable none matching
  obtain ⟨inside, outside⟩ := reads history
  obtain ⟨value, null, _⟩ := inside 0 (by decide)
  exact ⟨countable, row, made, value, null, outside 3 (by decide)⟩

end PacketRow

end RowCursor
