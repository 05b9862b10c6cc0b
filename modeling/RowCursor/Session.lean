import RowCursor.PacketRow

/-!
# Sessions

A session is what a cursor pages through: commands go out, rows come in until the
batch ends, and the end of a batch tells whether the last row has been sent.

Every batch is finite: a session bounds the rows that it may still deliver without
another command, and each delivered row lowers the bound.  A session that has only
so many rows to give in all bounds those too.
-/

set_option autoImplicit false

namespace RowCursor

/-- A session over states of type `σ`. -/
class RowSession (σ : Type) where
  sendCommand : (command : Bytes) → Step σ Unit
  /-- The next row of the current batch, or `none` at its end. -/
  nextRow : Columns → RowEncoding → Step σ (Option PacketRow)
  /-- Whether the end of the last batch told that the last row has been sent. -/
  lastRowSent : σ → Bool
  /-- A bound on the rows that are left in the current batch. -/
  batchBound : σ → Nat
  batchBound_lt : ∀ {columns : Columns} {encoding : RowEncoding} {row : PacketRow}
    {before after : σ}, nextRow columns encoding before = .ok (some row) after →
      batchBound after < batchBound before

/-- A session that has a limited supply of rows. -/
class SuppliedSession (σ : Type) extends RowSession σ where
  /-- A bound on the rows that all later batches together deliver. -/
  supply : σ → Nat
  supply_sendCommand : ∀ {command : Bytes} {before after : σ},
    sendCommand command before = .ok () after → supply after ≤ supply before
  supply_nextRow : ∀ {columns : Columns} {encoding : RowEncoding} {row : PacketRow}
    {before after : σ}, nextRow columns encoding before = .ok (some row) after →
      supply after < supply before
  supply_batchEnd : ∀ {columns : Columns} {encoding : RowEncoding}
    {before after : σ}, nextRow columns encoding before = .ok none after →
      supply after ≤ supply before

namespace RowSession

variable {σ : Type} [RowSession σ]

/-- Read the rows up to the end of the batch, behind those that are read already. -/
def readBatch (columns : Columns) (rows : Array PacketRow) : Step σ (Array PacketRow) :=
  fun state =>
    match _received : nextRow columns .binary state with
    | .ok (some row) after => readBatch columns (rows.push row) after
    | .ok none after => .ok rows after
    | .error error after => .error error after
termination_by state => batchBound state
decreasing_by exact batchBound_lt _received

end RowSession

end RowCursor
