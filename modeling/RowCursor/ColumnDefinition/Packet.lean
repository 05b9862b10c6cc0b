import RowCursor.Codec
import RowCursor.ColumnDefinition

/-!
# Column definition packets

Six texts behind their lengths, the length of what follows, and a tail of fixed
size.  The tail can also be read on its own, off the end of the packet.
-/

set_option autoImplicit false

namespace RowCursor

/-- The part of a column definition that has a fixed size. -/
structure ColumnTail where
  charset : UInt16
  columnLength : UInt32
  typeId : UInt8
  flags : ColumnFlags
  decimals : UInt8
  deriving DecidableEq, Repr

namespace ColumnTail

def size : Nat := 12

/-- Read a tail; its last two bytes are reserved. -/
def read : Reader ColumnTail := do
  let charset ← Read.int2
  let columnLength ← Read.int4
  let typeId ← Read.int1
  let flags ← Read.int2
  let decimals ← Read.int1
  let _ ← Read.int2
  return { charset, columnLength, typeId, flags := .ofBits flags, decimals }

/-- The tail that the last bytes of a column definition packet are. -/
def ofPayload (payload : Bytes) : Except Error ColumnTail :=
  if payload.length < size then .error (.libraryBug (.columnDefinitionTooShort payload.length))
  else (read (payload.drop (payload.length - size))).map Prod.fst

end ColumnTail

namespace ColumnDefinition

def readText : Reader String := do
  return Utf8.decodeLossy (← Read.stringLenenc)

/-- Read a column definition.  The catalog is passed over, and so is the length of
the tail, whatever it says. -/
def read : Reader ColumnDefinition := do
  let _ ← Read.stringLenenc
  let schema ← readText
  let table ← readText
  let orgTable ← readText
  let name ← readText
  let orgName ← readText
  let _ ← Read.intLenenc
  let tail ← ColumnTail.read
  return {
    schema, table, orgTable, name, orgName
    charset := tail.charset
    columnLength := tail.columnLength
    typeId := tail.typeId
    flags := tail.flags
    decimals := tail.decimals }

/-- The column definition that a packet starts with. -/
def ofPayload (payload : Bytes) : Except Error ColumnDefinition :=
  (read payload).map Prod.fst

end ColumnDefinition

end RowCursor
