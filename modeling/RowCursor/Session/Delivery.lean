import RowCursor.Session

/-!
# What a simulated server delivers

The rows of the current batch, waiting to be read, with a log of the commands that
arrived.  Both simulated servers deliver their rows through this queue.
-/

set_option autoImplicit false

namespace RowCursor

/-- The waiting rows of a batch and the commands received. -/
structure Delivery where
  queue : List Bytes := []
  /-- The commands received, oldest first. -/
  commands : List Bytes := []
  lastRowSent : Bool := false
  deriving DecidableEq, Repr

namespace Delivery

def record (delivery : Delivery) (command : Bytes) : Delivery :=
  { delivery with commands := delivery.commands ++ [command] }

def enqueue (delivery : Delivery) (rows : List Bytes) : Delivery :=
  { delivery with queue := delivery.queue ++ rows }

/-- Read the next row of the batch.  A packet that is no row is used up. -/
def nextRow (columns : Columns) (encoding : RowEncoding) : Step Delivery (Option PacketRow) :=
  fun delivery =>
    match delivery.queue with
    | [] => .ok none delivery
    | packet :: rest =>
      let after := { delivery with queue := rest }
      match PacketRow.ofPacketWith? packet encoding columns with
      | .ok row => .ok (some row) after
      | .error error => .error error after

theorem queue_length_of_row {columns : Columns} {encoding : RowEncoding} {row : PacketRow}
    {before after : Delivery} (read : nextRow columns encoding before = .ok (some row) after) :
    after.queue.length + 1 = before.queue.length := by
  unfold nextRow at read
  split at read
  · simp at read
  · rename_i packet rest waiting
    split at read
    · cases read
      simp [waiting]
    · simp at read

theorem eq_of_batchEnd {columns : Columns} {encoding : RowEncoding} {before after : Delivery}
    (read : nextRow columns encoding before = .ok none after) :
    before.queue = [] ∧ after = before := by
  unfold nextRow at read
  split at read
  · rename_i empty
    cases read
    exact ⟨empty, rfl⟩
  · split at read <;> simp at read

end Delivery

end RowCursor
