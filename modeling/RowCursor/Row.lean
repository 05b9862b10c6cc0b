import RowCursor.Step
import RowCursor.ValueFactory

/-!
# Rows

What every representation of a row offers: access to its columns by index, without
the caller knowing how the server encoded them.  Reading a column is a step over the
row, because a row may remember where it found it.
-/

set_option autoImplicit false

namespace RowCursor

/-- Access to the columns of a row by index. -/
class Row (ρ : Type) where
  encoding : ρ → RowEncoding
  /-- The count of columns, zero while no metadata is attached. -/
  numColumns : ρ → Nat
  column : ρ → (index : Nat) → Except Error ColumnDefinition
  /-- The bytes of a column without their length prefix; `none` is NULL. -/
  columnValue : (index : Nat) → Step ρ (Option Bytes)
  isNull : (index : Nat) → Step ρ Bool
  /-- The length of a column's bytes, zero for NULL. -/
  length : (index : Nat) → Step ρ Nat
  /-- Replace a column; `none` stores NULL. -/
  setColumnValue : (index : Nat) → Option Bytes → Step ρ Unit

namespace Row

variable {ρ α : Type} [Row ρ]

/-- Decode a column through a factory. -/
def getValue (factory : ValueFactory α) (index : Nat) : Step ρ α := do
  let row ← get
  let definition ← Step.lift (column row index)
  match ← columnValue index with
  | none => Step.lift (factory.ofNull definition)
  | some data => Step.lift (factory.ofBytes definition (encoding row) data)

/-- Decode every column through a factory, with the failures in their places. -/
def getAll (factory : ValueFactory α) : Step ρ (List (Except Error α)) := do
  let row ← get
  (List.range (numColumns row)).mapM fun index => (getValue factory index).attempt

end Row

end RowCursor
