import RowCursor.Proofs.Row.Accessors
import RowCursor.Proofs.Row.Layout

/-!
# The layout of a binary row

A binary row is a zero byte, a bitmap of its NULL columns, and the other columns in
order, each by the layout of its type.  `Cell.encode` writes one column;
`BinaryPrefix` says that a row starts with some cells.  Walking over these cells ends
behind their bytes, and each of them is read back as it was written, in any order and
with any bytes behind them.
-/

set_option autoImplicit false

namespace RowCursor

/-! ## Cells -/

/-- Whether a value can lie in a binary row by this layout. -/
def BinaryLength.Admits : BinaryLength → Bytes → Prop
  | .fixed width, data => data.length = width
  | .lengthEncoded, data => data.length < 2 ^ 63
  | .unsupported, _ => False

instance : (layout : BinaryLength) → (data : Bytes) → Decidable (layout.Admits data)
  | .fixed width, data => inferInstanceAs (Decidable (data.length = width))
  | .lengthEncoded, data => inferInstanceAs (Decidable (data.length < 2 ^ 63))
  | .unsupported, _ => inferInstanceAs (Decidable False)

/-- A column of a binary row with the value in it; `none` is NULL. -/
structure Cell where
  column : ColumnDefinition
  value : Option Bytes
  deriving DecidableEq, Repr

namespace Cell

/-- The bytes of a cell behind the bitmap; NULL takes none. -/
def encode (cell : Cell) : Bytes :=
  match cell.value with
  | none => []
  | some data =>
    match cell.column.binaryLength with
    | .lengthEncoded => Write.bytesLenenc data
    | _ => data

/-- A value fits the layout of its type.  NULL fits every type, unknown ones too. -/
def WellFormed (cell : Cell) : Prop :=
  ∀ data ∈ cell.value,
    cell.column.typeId ≠ ColumnType.null.id ∧ cell.column.binaryLength.Admits data

instance (cell : Cell) : Decidable cell.WellFormed :=
  inferInstanceAs (Decidable (∀ data ∈ cell.value, _))

def size (cell : Cell) : Nat := (cell.value.map List.length).getD 0

theorem WellFormed.layout {cell : Cell} {data : Bytes} (fits : cell.WellFormed)
    (holds : cell.value = some data) :
    cell.column.typeId ≠ ColumnType.null.id ∧
      ((cell.column.binaryLength = .fixed data.length ∧ cell.encode = data) ∨
        (cell.column.binaryLength = .lengthEncoded ∧ data.length < 2 ^ 63 ∧
          cell.encode = Write.bytesLenenc data)) := by
  obtain ⟨notNull, admits⟩ := fits data holds
  refine ⟨notNull, ?_⟩
  unfold encode
  rw [holds]
  cases layout : cell.column.binaryLength with
  | fixed width =>
      rw [layout] at admits
      have sized : data.length = width := admits
      exact Or.inl ⟨by rw [sized], rfl⟩
  | lengthEncoded =>
      rw [layout] at admits
      exact Or.inr ⟨rfl, admits, rfl⟩
  | unsupported =>
      rw [layout] at admits
      exact False.elim admits

end Cell

/-- The bitmap says which cells are NULL; its other bits do not matter. -/
structure MarksNulls (bitmap : Bytes) (cells : List Cell) : Prop where
  length_eq : bitmap.length = (cells.length + 9) / 8
  testBit_eq : ∀ (index : Nat) (inside : index < cells.length),
    (ofLittleEndian bitmap).testBit (index + 2) = cells[index].value.isNone

/-- The bitmap is complete, and the first columns are those of the cells and marked as their
values say.  Further columns may follow. -/
structure Introduces (columns : Columns) (bitmap : Bytes) (cells : List Cell) : Prop where
  length_eq : bitmap.length = NullBitmap.length columns.size
  column_eq : ∀ (index : Nat) (inside : index < cells.length),
    columns[index]? = some cells[index].column
  testBit_eq : ∀ (index : Nat) (inside : index < cells.length),
    (ofLittleEndian bitmap).testBit (index + 2) = cells[index].value.isNone

theorem MarksNulls.introduces {bitmap : Bytes} {cells : List Cell}
    (marks : MarksNulls bitmap cells) :
    Introduces (cells.map Cell.column).toArray bitmap cells where
  length_eq := by
    rw [marks.length_eq, NullBitmap.length, NullBitmap.reservedBits, List.size_toArray,
      List.length_map]
  column_eq index inside := by simp [inside]
  testBit_eq := marks.testBit_eq

namespace PacketRow

variable {row : PacketRow} {cell : Cell} {cells : List Cell} {packet rest : Bytes} {index : Nat}

/-! ## One cell -/

/-- The row's metadata and bitmap describe this cell. -/
structure Describes (row : PacketRow) (index : Nat) (cell : Cell) : Prop where
  encoding_eq : row.encoding = .binary
  nullFlag_eq : row.nullFlag index = cell.value.isNone
  column_eq : row.column index = .ok cell.column

theorem skips_encode (describes : row.Describes index cell) (fits : cell.WellFormed) :
    row.Skips index cell.encode := by
  intro packet rest
  unfold skipColumn
  rw [describes.encoding_eq, describes.nullFlag_eq, describes.column_eq]
  cases holds : cell.value with
  | none => simp [Cell.encode, holds]
  | some data =>
      obtain ⟨_, ⟨fixed, bytes⟩ | ⟨lengthEncoded, countable, bytes⟩⟩ := fits.layout holds
      · simp only [fixed, bytes]
        exact PacketReader.skip_append packet data rest
      · simp only [lengthEncoded, bytes]
        exact PacketReader.skipLenencBytes_write packet countable rest

/-- What the reads of a column answer when its bytes begin where the search for it
ends. -/
theorem reads_of_located (describes : row.Describes index cell) (fits : cell.WellFormed)
    (located : row.locate index = .ok ⟨packet, cell.encode ++ rest⟩) :
    row.valueAt index = .ok cell.value ∧ row.isNullAt index = .ok cell.value.isNone ∧
      row.lengthAt index = .ok cell.size := by
  have binary := describes.encoding_eq
  have known := describes.column_eq
  have value : row.valueFrom index (row.locate index) = .ok cell.value := by
    rw [valueFrom_of_binary binary known, describes.nullFlag_eq, located]
    cases holds : cell.value with
    | none => rfl
    | some data =>
        obtain ⟨notNull, layout⟩ := fits.layout holds
        rw [if_neg (by simp [notNull])]
        obtain ⟨fixed, bytes⟩ | ⟨lengthEncoded, countable, bytes⟩ := layout
        · rw [fixed, bytes]
          change (PacketReader.readFixed ⟨packet, data ++ rest⟩ data.length).map _ = _
          rw [PacketReader.readFixed_append]
          rfl
        · rw [lengthEncoded, bytes]
          change (PacketReader.readLenencBytes ⟨packet, Write.bytesLenenc data ++ rest⟩).map _ = _
          rw [PacketReader.readLenencBytes_write packet countable]
          rfl
  refine ⟨value, ?_, (binary_accessors binary known value).1⟩
  rw [isNullAt, isNullFrom_of_binary binary known, describes.nullFlag_eq]

/-! ## A row of cells -/

/-- The row starts with these cells, as its metadata and its bitmap describe them. -/
structure BinaryPrefix (row : PacketRow) (cells : List Cell) (rest : Bytes) : Prop where
  home_le : row.home ≤ row.packet.length
  drop_home : row.packet.drop row.home = cells.flatMap Cell.encode ++ rest
  describes : ∀ index (inside : index < cells.length), row.Describes index cells[index]
  wellFormed : ∀ cell ∈ cells, cell.WellFormed

theorem BinaryPrefix.laidOut (starts : row.BinaryPrefix cells rest) :
    row.LaidOut (cells.map Cell.encode) rest := by
  refine ⟨starts.home_le, ?_, ?_⟩
  · rw [starts.drop_home, List.flatMap_def]
  · intro index inside
    rw [List.length_map] at inside
    rw [List.getElem_map]
    exact skips_encode (starts.describes index inside)
      (starts.wellFormed _ (List.getElem_mem inside))

theorem BinaryPrefix.reads_eq (starts : row.BinaryPrefix cells rest)
    (inside : index < cells.length) :
    row.valueAt index = .ok cells[index].value ∧
      row.isNullAt index = .ok cells[index].value.isNone ∧
        row.lengthAt index = .ok cells[index].size := by
  have located := starts.laidOut.locate_of_inside (by rwa [List.length_map])
  rw [List.getElem_map] at located
  exact reads_of_located (starts.describes index inside)
    (starts.wellFormed _ (List.getElem_mem inside)) located

theorem describes_of_introduces {columns : Columns} {bitmap : Bytes}
    (introduces : Introduces columns bitmap cells) (inside : index < cells.length)
    (body : Bytes) :
    (binaryRow (0x00 :: (bitmap ++ body)) columns).Describes index cells[index] := by
  have known := introduces.column_eq index inside
  obtain ⟨within, _⟩ := Array.getElem?_eq_some_iff.mp known
  refine ⟨rfl, ?_, column_binaryRow known _⟩
  rw [nullFlag_of_bitmap introduces.length_eq within, introduces.testBit_eq index inside]

theorem binaryPrefix_of_introduces {columns : Columns} {bitmap : Bytes}
    (introduces : Introduces columns bitmap cells) (fits : ∀ cell ∈ cells, cell.WellFormed)
    (rest : Bytes) :
    (binaryRow (0x00 :: (bitmap ++ (cells.flatMap Cell.encode ++ rest))) columns).BinaryPrefix
      cells rest where
  home_le := (beginsRow_of_bitmap introduces.length_eq _).2
  drop_home := drop_home_of_bitmap introduces.length_eq _
  describes _ inside := describes_of_introduces introduces inside _
  wellFormed := fits

theorem cacheSound_binaryRow {columns : Columns} (begins : BeginsRow packet columns) :
    CacheSound (binaryRow packet columns) :=
  CacheSound.of_not_found begins.2 rfl

theorem binaryPrefix_of_layout (fits : ∀ cell ∈ cells, cell.WellFormed) {bitmap : Bytes}
    (marks : MarksNulls bitmap cells) (rest : Bytes) :
    ∃ row, ofPacketWith? (0x00 :: (bitmap ++ (cells.flatMap Cell.encode ++ rest))) .binary
        (cells.map Cell.column).toArray = .ok row ∧
      row.BinaryPrefix cells rest ∧ CacheSound row := by
  have introduces := marks.introduces
  have begins := beginsRow_of_bitmap introduces.length_eq (cells.flatMap Cell.encode ++ rest)
  exact ⟨_, begins.ofPacketWith?_eq, binaryPrefix_of_introduces introduces fits rest,
    cacheSound_binaryRow begins⟩

/-- Decoding undoes the layout in any order of reads: each read of a column answers
its value, whether it is NULL, and the length of its bytes. -/
theorem binary_row_reads_back (cells : List Cell) (fits : ∀ cell ∈ cells, cell.WellFormed)
    (bitmap trailing : Bytes) (marks : MarksNulls bitmap cells) :
    ∃ row, ofPacketWith? (0x00 :: (bitmap ++ (cells.flatMap Cell.encode ++ trailing))) .binary
        (cells.map Cell.column).toArray = .ok row ∧
      ∀ (history : List (Sigma RowRead)) (index : Nat) (inside : index < cells.length),
        (columnValue index).answer (row.afterReads history) = .ok cells[index].value ∧
        (isNull index).answer (row.afterReads history) = .ok cells[index].value.isNone ∧
        (length index).answer (row.afterReads history) = .ok cells[index].size := by
  obtain ⟨row, made, starts, sound⟩ := binaryPrefix_of_layout fits marks trailing
  refine ⟨row, made, ?_⟩
  intro history index inside
  obtain ⟨value, null, length⟩ := starts.reads_eq inside
  refine ⟨?_, ?_, ?_⟩
  · exact (answer_afterReads sound history (.columnValue index)).trans value
  · exact (answer_afterReads sound history (.isNull index)).trans null
  · exact (answer_afterReads sound history (.length index)).trans length

/-- A number, a NULL of unknown type and a text, with the bits that do not matter set. -/
theorem number_null_text_row_reads_back :
    let cells : List Cell := [⟨.ofType .tiny, some [0x07]⟩, ⟨.ofTypeId 0x99, none⟩,
      ⟨.ofType .varString, some [0x61, 0x62]⟩]
    (∀ cell ∈ cells, cell.WellFormed) ∧ MarksNulls [0x8B] cells ∧
      ∃ row, ofPacketWith? (0x00 :: ([0x8B] ++ (cells.flatMap Cell.encode ++ [0xFF]))) .binary
          (cells.map Cell.column).toArray = .ok row ∧
        (columnValue 2).answer (row.afterReads [⟨_, .length 9⟩]) = .ok (some [0x61, 0x62]) := by
  intro cells
  have fits : ∀ cell ∈ cells, cell.WellFormed := by decide
  have marks : MarksNulls [0x8B] cells := ⟨by decide, by decide⟩
  obtain ⟨row, made, reads⟩ := binary_row_reads_back cells fits [0x8B] [0xFF] marks
  exact ⟨fits, marks, row, made, (reads [⟨_, .length 9⟩] 2 (by decide)).1⟩

end PacketRow

end RowCursor
