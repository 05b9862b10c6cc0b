import RowCursor.Connection
import RowCursor.Proofs.Cursor.Steps
import RowCursor.Proofs.Row.Metadata
import RowCursor.Session.PagingServer
import RowCursor.Session.ScriptedServer

/-!
# Sessions whose rows carry their metadata

A row that is received with metadata has it attached.  The connection and the simulated
servers keep to this, and so every row of a fetched batch carries the metadata that the
fetch asked for.
-/

set_option autoImplicit false

namespace RowCursor

theorem PacketRow.carries_of_ofPacketWith? {packet : Bytes} {encoding : RowEncoding}
    {columns : Columns} {row : PacketRow}
    (made : ofPacketWith? packet encoding columns = .ok row) : row.Carries columns := by
  simp only [ofPacketWith?, bind, Except.bind] at made
  split at made
  · cases made
  · exact carries_of_setColumns made

/-- Every row of the session carries the metadata that was asked for. -/
def RowsCarry (σ : Type) [RowSession σ] : Prop :=
  ∀ (columns : Columns) (encoding : RowEncoding) (row : PacketRow) (before after : σ),
    RowSession.nextRow columns encoding before = .ok (some row) after → row.Carries columns

/-! ## The sessions of this library -/

theorem Connection.rowsCarry : RowsCarry Connection := by
  intro columns encoding row before after received
  simp only [RowSession.nextRow, nextRow] at received
  split at received
  · cases received
  · split at received
    · cases received
    · split at received
      · split at received <;> cases received
      · split at received
        · rename_i made
          cases received
          exact PacketRow.carries_of_ofPacketWith? made
        · cases received

theorem Delivery.carries_of_nextRow {columns : Columns} {encoding : RowEncoding}
    {row : PacketRow} {before after : Delivery}
    (read : nextRow columns encoding before = .ok (some row) after) : row.Carries columns := by
  unfold nextRow at read
  split at read
  · cases read
  · split at read
    · rename_i made
      cases read
      exact PacketRow.carries_of_ofPacketWith? made
    · cases read

theorem PagingServer.rowsCarry : RowsCarry PagingServer := by
  intro columns encoding row before after received
  exact Delivery.carries_of_nextRow (delivery_of_nextRow received).1

theorem ScriptedServer.rowsCarry : RowsCarry ScriptedServer := by
  intro columns encoding row before after received
  exact Delivery.carries_of_nextRow (delivery_of_nextRow received).1

/-! ## The rows of a batch -/

section

variable {σ : Type} [RowSession σ]

theorem readBatch_carries (carry : RowsCarry σ) {columns : Columns} {rows batch : Array PacketRow}
    {before after : σ} (old : ∀ row ∈ rows, row.Carries columns)
    (read : RowSession.readBatch columns rows before = .ok batch after) :
    ∀ row ∈ batch, row.Carries columns := by
  fun_induction RowSession.readBatch columns rows before with
  | case1 rows before row between received ih =>
      apply ih _ read
      intro other member
      rcases Array.mem_push.mp member with known | rfl
      · exact old other known
      · exact carry columns .binary _ _ _ received
  | case2 rows before between received =>
      cases read
      exact old
  | case3 => cases read

theorem ResultCursor.fetchBatch_carries (carry : RowsCarry σ) {cursor : ResultCursor}
    {columns : Columns} {batch : Array PacketRow} {before after : σ}
    (fetched : cursor.fetchBatch columns before = .ok batch after) :
    ∀ row ∈ batch, row.Carries columns := by
  rw [fetchBatch_eq] at fetched
  split at fetched
  · exact readBatch_carries carry (by simp) fetched
  · cases fetched

end

end RowCursor
