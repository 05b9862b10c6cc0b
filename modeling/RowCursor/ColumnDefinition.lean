import RowCursor.ColumnType
import RowCursor.Flags

/-!
# Column definitions

The metadata of one result column.  The type id is kept as the server sent it, so
that an unknown id can still be named when a binary row refers to it.
-/

set_option autoImplicit false

namespace RowCursor

/-- The metadata of one result column. -/
structure ColumnDefinition where
  schema : String := ""
  /-- The table's alias. -/
  table : String := ""
  /-- The table's own name. -/
  orgTable : String := ""
  /-- The column's alias. -/
  name : String := ""
  /-- The column's own name. -/
  orgName : String := ""
  charset : UInt16 := 63
  columnLength : UInt32 := 0
  typeId : UInt8
  flags : ColumnFlags := ⟨0⟩
  decimals : UInt8 := 0
  deriving DecidableEq, Repr

abbrev Columns := Array ColumnDefinition

namespace ColumnDefinition

/-- A nameless column with the given type id. -/
def ofTypeId (typeId : UInt8) : ColumnDefinition := { typeId }

/-- A nameless column of the given type. -/
def ofType (kind : ColumnType) : ColumnDefinition := ofTypeId kind.id

def type? (column : ColumnDefinition) : Option ColumnType :=
  ColumnType.ofId? column.typeId

/-- The layout in binary rows; a column of unknown type has none. -/
def binaryLength (column : ColumnDefinition) : BinaryLength :=
  match column.type? with
  | some kind => kind.binaryLength
  | none => .unsupported

def isUnsigned (column : ColumnDefinition) : Bool :=
  column.flags.unsigned

end ColumnDefinition

end RowCursor
