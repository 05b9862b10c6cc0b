import RowCursor.Proofs.Row.SeekCache

/-!
# Attaching metadata

A binary row decodes its NULL bitmap when metadata is attached for the first time,
and fails exactly if the packet ends inside the bitmap (`decodeBitmap_eq`).  A fresh
row, with or without metadata, remembers nothing and has its first column inside the
packet (`Unread`).  A row that carries metadata is left as it is when the same
metadata is attached again.
-/

set_option autoImplicit false

namespace RowCursor

/-! ## The NULL bitmap -/

namespace NullBitmap

/-- The bits of a byte string are the bits of its number, low byte first. -/
theorem testBit_ofLittleEndian (bytes : Bytes) (bit : Nat) :
    (ofLittleEndian bytes).testBit bit =
      match bytes[bit / 8]? with
      | some byte => byte.toNat.testBit (bit % 8)
      | none => false := by
  induction bytes generalizing bit with
  | nil => simp [ofLittleEndian]
  | cons byte rest ih =>
      have small : byte.toNat < 2 ^ 8 := byte.toNat_lt
      have split : byte.toNat + 256 * ofLittleEndian rest =
          2 ^ 8 * ofLittleEndian rest + byte.toNat := by omega
      rw [ofLittleEndian, split, Nat.testBit_two_pow_mul_add _ small]
      by_cases low : bit < 8
      · have first : bit / 8 = 0 := by omega
        have same : bit % 8 = bit := by omega
        rw [if_pos low, first, same]
        rfl
      · have later : bit / 8 = (bit - 8) / 8 + 1 := by omega
        have same : bit % 8 = (bit - 8) % 8 := by omega
        rw [if_neg low, ih, later, same, List.getElem?_cons_succ]

theorem isNull_eq_testBit (bitmap : NullBitmap) (column : Nat) :
    bitmap.isNull column = (ofLittleEndian bitmap.bytes).testBit (column + 2) :=
  (testBit_ofLittleEndian bitmap.bytes (column + 2)).symm

end NullBitmap

namespace PacketRow

variable {row : PacketRow}

theorem nullFlag_of_flags {bitmap : NullBitmap} {count index : Nat}
    (decoded : row.nullFlags = some (bitmap.flags count)) (inside : index < count) :
    row.nullFlag index = bitmap.isNull index := by
  simp [nullFlag, decoded, NullBitmap.flags, inside]

/-- The bytes where the NULL bitmap of so many columns lies. -/
def bitmapBytes (packet : Bytes) (count : Nat) : Bytes :=
  (packet.drop bitmapHome).take (NullBitmap.length count)

theorem decodeBitmap_eq (row : PacketRow) (count : Nat) :
    row.decodeBitmap count =
      if bitmapHome + NullBitmap.length count ≤ row.packet.length then
        .ok { row with
          nullFlags := some (NullBitmap.flags ⟨bitmapBytes row.packet count⟩ count)
          home := bitmapHome + NullBitmap.length count
          found := none }
      else .error .unexpectedEof := by
  unfold decodeBitmap
  by_cases started : bitmapHome ≤ row.packet.length
  · rw [PacketReader.at?_of_le started]
    simp only [bind, Except.bind, PacketReader.readFixed, PacketReader.read, Read.fixed_eq,
      List.length_drop]
    by_cases complete : bitmapHome + NullBitmap.length count ≤ row.packet.length
    · have enough : NullBitmap.length count ≤ row.packet.length - bitmapHome := by omega
      have position : row.packet.length -
          (row.packet.length - bitmapHome - NullBitmap.length count) =
            bitmapHome + NullBitmap.length count := by omega
      rw [if_pos complete, if_pos enough]
      simp only [pure, Except.pure, PacketReader.position, List.length_drop, position]
      rfl
    · have short : ¬NullBitmap.length count ≤ row.packet.length - bitmapHome := by omega
      rw [if_neg complete, if_neg short]
  · have short : ¬bitmapHome + NullBitmap.length count ≤ row.packet.length := by omega
    rw [PacketReader.at?, if_neg started, if_neg short]
    rfl

/-! ## What attaching does -/

/-- The row is the same but for the metadata, or its bitmap is decoded. -/
theorem setColumns_cases {columns : Columns} {after : PacketRow}
    (attached : row.setColumns columns = .ok after) :
    (after = { row with columns := some columns } ∧
      (row.encoding = .binary →
        ∃ flags, row.nullFlags = some flags ∧ flags.size = columns.size)) ∨
    (row.nullFlags = none ∧ bitmapHome + NullBitmap.length columns.size ≤ row.packet.length ∧
      after = { row with
        nullFlags := some (NullBitmap.flags ⟨bitmapBytes row.packet columns.size⟩ columns.size)
        home := bitmapHome + NullBitmap.length columns.size
        found := none
        columns := some columns }) := by
  unfold setColumns at attached
  split at attached
  · rename_i text
    cases attached
    refine Or.inl ⟨rfl, fun binary => ?_⟩
    rw [text] at binary
    cases binary
  · rename_i flags _ known
    split at attached
    · rename_i matching
      cases attached
      exact Or.inl ⟨rfl, fun _ => ⟨flags, known, matching⟩⟩
    · cases attached
  · rename_i undecoded
    rw [decodeBitmap_eq] at attached
    split at attached
    · rename_i complete
      cases attached
      exact Or.inr ⟨undecoded, complete, rfl⟩
    · cases attached

theorem encoding_of_setColumns {columns : Columns} {after : PacketRow}
    (attached : row.setColumns columns = .ok after) : after.encoding = row.encoding := by
  rcases setColumns_cases attached with ⟨rfl, _⟩ | ⟨_, _, rfl⟩
  · rfl
  · rfl

/-! ## Fresh rows -/

/-- A fresh row in the given encoding, with metadata attached if there is any. -/
def fresh? (packet : Bytes) (encoding : RowEncoding) : Option Columns → Except Error PacketRow
  | none => ofPacket? packet encoding
  | some columns => ofPacketWith? packet encoding columns

/-- A row without a memory whose first column begins inside its packet. -/
structure Unread (row : PacketRow) (packet : Bytes) : Prop where
  packet_eq : row.packet = packet
  home_le : row.home ≤ packet.length
  found_eq : row.found = none

theorem Unread.cacheSound {packet : Bytes} (unread : row.Unread packet) : CacheSound row := by
  refine CacheSound.of_not_found ?_ unread.found_eq
  rw [unread.packet_eq]
  exact unread.home_le

theorem unread_of_ofPacket? {packet : Bytes} {encoding : RowEncoding}
    (made : ofPacket? packet encoding = .ok row) : row.Unread packet := by
  cases encoding with
  | text =>
      cases made
      exact ⟨rfl, Nat.zero_le _, rfl⟩
  | binary =>
      cases packet with
      | nil => cases made
      | cons first rest =>
          simp only [ofPacket?, ofBinary?] at made
          split at made
          · cases made
            exact ⟨rfl, Nat.succ_le_succ (Nat.zero_le _), rfl⟩
          · cases made

theorem unread_of_setColumns {packet : Bytes} {columns : Columns} {after : PacketRow}
    (unread : row.Unread packet) (attached : row.setColumns columns = .ok after) :
    after.Unread packet := by
  rcases setColumns_cases attached with ⟨rfl, _⟩ | ⟨_, complete, rfl⟩
  · exact ⟨unread.packet_eq, unread.home_le, unread.found_eq⟩
  · rw [unread.packet_eq] at complete
    exact ⟨unread.packet_eq, complete, rfl⟩

theorem unread_of_fresh? {packet : Bytes} {encoding : RowEncoding} {metadata : Option Columns}
    (made : fresh? packet encoding metadata = .ok row) : row.Unread packet := by
  cases metadata with
  | none => exact unread_of_ofPacket? made
  | some columns =>
      simp only [fresh?, ofPacketWith?, bind, Except.bind] at made
      cases bare : ofPacket? packet encoding with
      | error error => simp [bare] at made
      | ok row =>
          simp only [bare] at made
          exact unread_of_setColumns (unread_of_ofPacket? bare) made

/-! ## Columns of the metadata -/

section

variable {columns : Columns} {index : Nat}

theorem column_of_attached {definition : ColumnDefinition} (attached : row.columns = some columns)
    (known : columns[index]? = some definition) : row.column index = .ok definition := by
  simp only [column, requireColumns, attached, known, bind, Except.bind]
  rfl

theorem column_of_outside (attached : row.columns = some columns)
    (outside : columns.size ≤ index) :
    row.column index = .error (.badUsage (.columnOutOfRange index columns.size)) := by
  simp only [column, requireColumns, attached, Array.getElem?_eq_none outside, bind, Except.bind]
  rfl

theorem checkIndex_of_attached (attached : row.columns = some columns) (index : Nat) :
    row.checkIndex index = (row.column index).map fun _ => () := by
  unfold checkIndex
  rw [attached]
  cases row.encoding <;> rfl

end

/-! ## Binary rows with metadata -/

/-- A binary row that was not read yet. -/
def binaryRow (packet : Bytes) (columns : Columns) : PacketRow where
  packet
  encoding := .binary
  home := bitmapHome + NullBitmap.length columns.size
  found := none
  columns := some columns
  nullFlags := some (NullBitmap.flags ⟨bitmapBytes packet columns.size⟩ columns.size)

/-- The packet starts like a binary row and has a NULL bitmap for the columns. -/
def BeginsRow (packet : Bytes) (columns : Columns) : Prop :=
  packet.head? = some 0x00 ∧ bitmapHome + NullBitmap.length columns.size ≤ packet.length

instance (packet : Bytes) (columns : Columns) : Decidable (BeginsRow packet columns) :=
  inferInstanceAs (Decidable (_ ∧ _))

theorem ofPacketWith?_binary_eq_ok_iff {packet : Bytes} {columns : Columns} :
    ofPacketWith? packet .binary columns = .ok row ↔
      BeginsRow packet columns ∧ row = binaryRow packet columns := by
  unfold BeginsRow
  cases packet with
  | nil => simp [ofPacketWith?, ofPacket?, ofBinary?, bind, Except.bind]
  | cons first rest =>
      by_cases zero : first = 0x00
      · simp only [ofPacketWith?, ofPacket?, ofBinary?, zero, if_true, bind, Except.bind,
          setColumns, decodeBitmap_eq, List.head?_cons, true_and]
        split
        · rename_i complete
          simp only [complete, true_and, Except.map, Except.ok.injEq]
          exact eq_comm
        · rename_i cut
          constructor
          · intro made
            cases made
          · rintro ⟨complete, _⟩
            exact absurd complete cut
      · simp [ofPacketWith?, ofPacket?, ofBinary?, zero, bind, Except.bind]

theorem BeginsRow.ofPacketWith?_eq {packet : Bytes} {columns : Columns}
    (begins : BeginsRow packet columns) :
    ofPacketWith? packet .binary columns = .ok (binaryRow packet columns) :=
  ofPacketWith?_binary_eq_ok_iff.mpr ⟨begins, rfl⟩

/-! A zero byte and a bitmap begin a row, whatever stands behind them. -/

section

variable {bitmap : Bytes} {columns : Columns} {index : Nat}

theorem beginsRow_of_bitmap (complete : bitmap.length = NullBitmap.length columns.size)
    (body : Bytes) : BeginsRow (0x00 :: (bitmap ++ body)) columns := by
  refine ⟨rfl, ?_⟩
  rw [← complete]
  simp only [bitmapHome, List.length_cons, List.length_append]
  omega

theorem bitmapBytes_of_bitmap (complete : bitmap.length = NullBitmap.length columns.size)
    (body : Bytes) : bitmapBytes (0x00 :: (bitmap ++ body)) columns.size = bitmap := by
  rw [bitmapBytes, ← complete]
  exact List.take_left

theorem drop_home_of_bitmap (complete : bitmap.length = NullBitmap.length columns.size)
    (body : Bytes) :
    (0x00 :: (bitmap ++ body)).drop (binaryRow (0x00 :: (bitmap ++ body)) columns).home = body := by
  have home : (binaryRow (0x00 :: (bitmap ++ body)) columns).home = bitmap.length + 1 := by
    rw [complete, Nat.add_comm]
    rfl
  rw [home, List.drop_succ_cons, List.drop_left]

theorem nullFlag_of_bitmap (complete : bitmap.length = NullBitmap.length columns.size)
    (inside : index < columns.size) (body : Bytes) :
    (binaryRow (0x00 :: (bitmap ++ body)) columns).nullFlag index =
      (ofLittleEndian bitmap).testBit (index + 2) := by
  rw [nullFlag_of_flags rfl inside, NullBitmap.isNull_eq_testBit, bitmapBytes_of_bitmap complete]

theorem column_binaryRow {definition : ColumnDefinition}
    (known : columns[index]? = some definition) (packet : Bytes) :
    (binaryRow packet columns).column index = .ok definition :=
  column_of_attached rfl known

end

/-! ## Rows that carry metadata -/

/-- The row has the metadata attached; a binary row has a NULL flag for every column. -/
def Carries (row : PacketRow) (columns : Columns) : Prop :=
  row.columns = some columns ∧
    (row.encoding = .binary → ∃ flags, row.nullFlags = some flags ∧ flags.size = columns.size)

theorem carries_of_setColumns {columns : Columns} {after : PacketRow}
    (attached : row.setColumns columns = .ok after) : after.Carries columns := by
  rcases setColumns_cases attached with ⟨rfl, flagged⟩ | ⟨_, _, rfl⟩
  · exact ⟨rfl, flagged⟩
  · exact ⟨rfl, fun _ => ⟨_, rfl, Array.size_ofFn⟩⟩

theorem setColumns_of_carries {columns : Columns} (carries : row.Carries columns) :
    row.setColumns columns = .ok row := by
  obtain ⟨packet, encoding, home, found, metadata, nullFlags⟩ := row
  obtain ⟨attached, flagged⟩ := carries
  cases attached
  cases encoding with
  | text => rfl
  | binary =>
      obtain ⟨flags, known, size⟩ := flagged rfl
      cases known
      exact if_pos size

end PacketRow

end RowCursor
