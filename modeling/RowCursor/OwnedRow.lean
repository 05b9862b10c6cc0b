import RowCursor.Row

/-!
# Rows that own their values

The column values lie apart already, so that a row can outlive the packet it came
from and its values can be replaced.
-/

set_option autoImplicit false

namespace RowCursor

/-- A row of separate column values; there is one for every column. -/
structure OwnedRow where
  columns : Columns
  encoding : RowEncoding
  values : Array (Option Bytes)
  size_eq : values.size = columns.size

namespace OwnedRow

/-- A row of the given values, one for every column. -/
def ofValues? (columns : Columns) (encoding : RowEncoding) (values : Array (Option Bytes)) :
    Except Error OwnedRow :=
  if size_eq : values.size = columns.size then .ok { columns, encoding, values, size_eq }
  else .error (.badUsage (.valueCountMismatch values.size columns.size))

/-- The failure to reach a column that the row does not have. -/
def outOfRange (row : OwnedRow) (index : Nat) : Error :=
  .badUsage (.columnOutOfRange index row.values.size)

def slot (row : OwnedRow) (index : Nat) : Except Error (Option Bytes) :=
  match row.values[index]? with
  | some value => .ok value
  | none => .error (row.outOfRange index)

def column (row : OwnedRow) (index : Nat) : Except Error ColumnDefinition :=
  match row.columns[index]? with
  | some column => .ok column
  | none => .error (row.outOfRange index)

def replace (row : OwnedRow) (index : Nat) (value : Option Bytes) : Except Error OwnedRow :=
  if index < row.values.size then
    .ok { row with
      values := row.values.setIfInBounds index value
      size_eq := by rw [Array.size_setIfInBounds]; exact row.size_eq }
  else .error (row.outOfRange index)

instance : Row OwnedRow where
  encoding := OwnedRow.encoding
  numColumns row := row.columns.size
  column := OwnedRow.column
  columnValue index := do Step.lift ((← get).slot index)
  isNull index := do Step.lift (((← get).slot index).map Option.isNone)
  length index := do
    Step.lift (((← get).slot index).map fun value => (value.map List.length).getD 0)
  setColumnValue index value := do
    set (← Step.lift ((← get).replace index value))

end OwnedRow

end RowCursor
