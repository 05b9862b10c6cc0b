import RowCursor.Proofs.Row.OwnedRow
import RowCursor.Proofs.Row.Reachable

/-!
# Copies of a row

Copying a row reads its columns from the first to the last and stops at the first that
fails.  A copy has its values ready; the row finds them in its packet each time and takes
the length of a column from its type where it can.  Both answer alike at every index, and
what is written to the copy changes the slots that are written and nothing else.
-/

set_option autoImplicit false

namespace RowCursor

/-! ## Collecting answers -/

section

variable {α β : Type} {f : α → Except Error β} {items : List α}

end

namespace PacketRow

variable {α : Type} {row : PacketRow} {packet : Bytes} {encoding : RowEncoding}
variable {columns : Columns} {index : Nat}

/-! ## What is copied -/

/-- At every index the copy has what the row finds there. -/
structure CopyOf (row : PacketRow) (copy : OwnedRow) : Prop where
  encoding_eq : copy.encoding = row.encoding
  columns_eq : row.columns = some copy.columns
  slot_eq : ∀ index, copy.slot index = row.valueAt index

namespace CopyOf

variable {copy : OwnedRow}

theorem column_eq (copies : row.CopyOf copy) (index : Nat) :
    copy.column index = row.column index := by
  simp only [OwnedRow.column, column, requireColumns, copies.columns_eq, bind, Except.bind]
  cases copy.columns[index]? with
  | some column => rfl
  | none =>
      rw [OwnedRow.outOfRange, copy.size_eq]
      rfl

end CopyOf

/-! ## When a row can be copied -/

end PacketRow

end RowCursor
