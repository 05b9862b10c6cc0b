import RowCursor.NullBitmap
import RowCursor.OwnedRow
import RowCursor.PacketReader

/-!
# Rows inside the packet they arrived in

A `PacketRow` finds a column by walking over the columns before it.  It remembers
the column it found last and where that begins, so reading columns in order walks
the packet once; going back starts over at the first column.

A binary row needs its metadata before any column can be found, because the width
of a column follows from its type.  The NULL bitmap is decoded when metadata is
attached for the first time, and fixes the count of columns from then on.
-/

set_option autoImplicit false

namespace RowCursor

/-- A row inside its packet. -/
structure PacketRow where
  packet : Bytes
  encoding : RowEncoding
  /-- The offset of the first column. -/
  home : Nat
  /-- The column that was found last, with its offset. -/
  found : Option (Nat × Nat)
  columns : Option Columns
  /-- Which columns are NULL, once the bitmap is decoded. -/
  nullFlags : Option (Array Bool)
  deriving DecidableEq, Repr

namespace PacketRow

/-! ## Making rows -/

/-- The offset of the NULL bitmap in a binary row, behind the row's first byte. -/
def bitmapHome : Nat := 1

def ofText (packet : Bytes) : PacketRow :=
  { packet, encoding := .text, home := 0, found := none, columns := none, nullFlags := none }

/-- A binary row; its packet starts with a zero byte. -/
def ofBinary? (packet : Bytes) : Except Error PacketRow :=
  match packet with
  | [] => .error .unexpectedEof
  | first :: _ =>
    if first = 0x00 then
      .ok { packet, encoding := .binary, home := bitmapHome, found := none, columns := none,
            nullFlags := none }
    else .error .invalidPacket

def ofPacket? (packet : Bytes) : RowEncoding → Except Error PacketRow
  | .text => .ok (ofText packet)
  | .binary => ofBinary? packet

/-- Decode the NULL bitmap for a count of columns; the first column lies behind it. -/
def decodeBitmap (row : PacketRow) (count : Nat) : Except Error PacketRow := do
  let reader ← PacketReader.at? row.packet bitmapHome
  let (bitmap, reader) ← reader.readFixed (NullBitmap.length count)
  return { row with
    nullFlags := some (NullBitmap.flags ⟨bitmap⟩ count)
    home := reader.position
    found := none }

/-- The row with metadata attached.  A binary row decodes its NULL bitmap the first
time; later metadata must describe as many columns. -/
def setColumns (row : PacketRow) (columns : Columns) : Except Error PacketRow :=
  match row.encoding, row.nullFlags with
  | .text, _ => .ok { row with columns := some columns }
  | .binary, some flags =>
    if flags.size = columns.size then .ok { row with columns := some columns }
    else .error (.badUsage (.metadataMismatch flags.size columns.size))
  | .binary, none =>
    (row.decodeBitmap columns.size).map fun row => { row with columns := some columns }

def ofPacketWith? (packet : Bytes) (encoding : RowEncoding) (columns : Columns) :
    Except Error PacketRow := do
  (← ofPacket? packet encoding).setColumns columns

/-! ## Columns -/

/-- The count of columns, zero while no metadata is attached. -/
def numColumns (row : PacketRow) : Nat :=
  match row.columns with
  | some columns => columns.size
  | none => 0

def requireColumns (row : PacketRow) : Except Error Columns :=
  match row.columns with
  | some columns => .ok columns
  | none => .error (.badUsage .metadataMissing)

def column (row : PacketRow) (index : Nat) : Except Error ColumnDefinition := do
  let columns ← row.requireColumns
  match columns[index]? with
  | some column => return column
  | none => throw (.badUsage (.columnOutOfRange index columns.size))

/-- Whether a column may be read.  A text row can be read without metadata, as far as
its packet goes. -/
def checkIndex (row : PacketRow) (index : Nat) : Except Error Unit :=
  match row.encoding, row.columns with
  | .text, none => .ok ()
  | _, _ => (row.column index).map fun _ => ()

def nullFlag (row : PacketRow) (index : Nat) : Bool :=
  match row.nullFlags with
  | some flags => flags[index]?.getD false
  | none => false

/-- The failure to find a column whose type has no layout. -/
def unsupported (row : PacketRow) (index : Nat) : Error :=
  let columns := row.columns.getD #[]
  .unsupportedBinaryType ((columns[index]?.map ColumnDefinition.typeId).getD 0) index
    columns.size

/-! ## Finding a column -/

/-- Pass over a column, with the reader at its beginning. -/
def skipColumn (row : PacketRow) (index : Nat) (reader : PacketReader) :
    Except Error PacketReader :=
  match row.encoding with
  | .text => reader.skipLenencBytes
  | .binary =>
    if row.nullFlag index then .ok reader
    else
      match row.column index with
      | .error error => .error error
      | .ok column =>
        match column.binaryLength with
        | .fixed width => reader.skip width
        | .lengthEncoded => reader.skipLenencBytes
        | .unsupported => .error (row.unsupported index)

def walk (row : PacketRow) : (count index : Nat) → PacketReader → Except Error PacketReader
  | 0, _, reader => .ok reader
  | count + 1, index, reader =>
    match row.skipColumn index reader with
    | .error error => .error error
    | .ok reader => row.walk count (index + 1) reader

/-- Where the walk to a column may start: at the column found last, unless that lies
behind it. -/
def nearest (row : PacketRow) (index : Nat) : Nat × Nat :=
  match row.found with
  | some (column, offset) => if column ≤ index then (column, offset) else (0, row.home)
  | none => (0, row.home)

def seek (row : PacketRow) (index : Nat) : Except Error Nat :=
  if index = 0 then .ok row.home
  else do
    let (column, offset) := row.nearest index
    let reader ← PacketReader.at? row.packet offset
    return (← row.walk (index - column) column reader).position

/-- Find a column, and remember where it begins. -/
def find (index : Nat) : Step PacketRow PacketReader := do
  let row ← get
  let offset ← Step.lift (row.seek index)
  set { row with found := some (index, offset) }
  Step.lift (PacketReader.at? row.packet offset)

/-! ## Reading a column -/

/-- The bytes of a column without their length prefix; `none` is NULL. -/
def columnValue (index : Nat) : Step PacketRow (Option Bytes) := do
  let row ← get
  Step.lift (row.checkIndex index)
  match row.encoding with
  | .text => return (← Step.lift (← find index).readLenencBytes).1
  | .binary =>
    if row.nullFlag index then return none
    let column ← Step.lift (row.column index)
    if column.typeId = ColumnType.null.id then return none
    match column.binaryLength with
    | .fixed width => return some (← Step.lift ((← find index).readFixed width)).1
    | .lengthEncoded => return (← Step.lift (← find index).readLenencBytes).1
    | .unsupported => throw (row.unsupported index)

/-- Whether a column is NULL: in a text row by its first byte, in a binary row by the
bitmap. -/
def isNull (index : Nat) : Step PacketRow Bool := do
  let row ← get
  Step.lift (row.checkIndex index)
  match row.encoding with
  | .text =>
    match (← find index).remaining with
    | first :: _ => return first == nullMarker
    | [] => throw .unexpectedEof
  | .binary => return row.nullFlag index

/-- The length that a length prefix announces, zero for NULL. -/
def announcedLength (reader : PacketReader) : Except Error Nat :=
  reader.readLenenc.map fun (length, _) => (length.map UInt64.toNat).getD 0

/-- The length of a column's bytes, as announced; zero for NULL. -/
def length (index : Nat) : Step PacketRow Nat := do
  let row ← get
  Step.lift (row.checkIndex index)
  match row.encoding with
  | .text => Step.lift (announcedLength (← find index))
  | .binary =>
    if row.nullFlag index then return 0
    match (← Step.lift (row.column index)).binaryLength with
    | .fixed width => return width
    | .lengthEncoded => Step.lift (announcedLength (← find index))
    | .unsupported => throw (row.unsupported index)

instance : Row PacketRow where
  encoding := PacketRow.encoding
  numColumns := PacketRow.numColumns
  column := PacketRow.column
  columnValue := PacketRow.columnValue
  isNull := PacketRow.isNull
  length := PacketRow.length
  setColumnValue _ _ := throw (.notSupported .packetRowIsReadOnly)

def toOwned : Step PacketRow OwnedRow := do
  let row ← get
  let columns ← Step.lift row.requireColumns
  let values ← (List.range columns.size).mapM columnValue
  Step.lift (OwnedRow.ofValues? columns row.encoding values.toArray)

end PacketRow

end RowCursor
