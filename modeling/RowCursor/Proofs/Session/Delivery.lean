import RowCursor.Proofs.Cursor.Steps
import RowCursor.Session.Delivery

/-!
# Reading a queue of packets to its end

A simulated server delivers a batch through its queue.  If every packet in the queue is a
row, reading the batch hands out these rows and leaves the queue empty, whatever else the
server keeps.
-/

set_option autoImplicit false

namespace RowCursor

/-- Every packet becomes the row at its place once the metadata is attached. -/
def ReadsAs (columns : Columns) (packets : List Bytes) (rows : List PacketRow) : Prop :=
  packets.map (fun packet => PacketRow.ofPacketWith? packet .binary columns) = rows.map .ok

namespace ReadsAs

variable {columns : Columns} {packets : List Bytes} {rows : List PacketRow}

theorem length_eq (reads : ReadsAs columns packets rows) : packets.length = rows.length := by
  have same := congrArg List.length reads
  rwa [List.length_map, List.length_map] at same

theorem take (reads : ReadsAs columns packets rows) (count : Nat) :
    ReadsAs columns (packets.take count) (rows.take count) := by
  rw [ReadsAs, List.map_take, List.map_take, reads]

theorem drop (reads : ReadsAs columns packets rows) (count : Nat) :
    ReadsAs columns (packets.drop count) (rows.drop count) := by
  rw [ReadsAs, List.map_drop, List.map_drop, reads]

theorem cons {packet : Bytes} (reads : ReadsAs columns (packet :: packets) rows) :
    ∃ row rest, rows = row :: rest ∧
      PacketRow.ofPacketWith? packet .binary columns = .ok row ∧
        ReadsAs columns packets rest := by
  cases rows with
  | nil => cases reads
  | cons row rest =>
      obtain ⟨first, later⟩ := List.cons.inj reads
      exact ⟨row, rest, rfl, first, later⟩

end ReadsAs

namespace Delivery

variable {columns : Columns}

theorem nextRow_of_queue {delivery : Delivery} {packet : Bytes} {rest : List Bytes}
    {row : PacketRow} (queued : delivery.queue = packet :: rest)
    (made : PacketRow.ofPacketWith? packet .binary columns = .ok row) :
    nextRow columns .binary delivery = .ok (some row) { delivery with queue := rest } := by
  simp only [nextRow, queued, made]

theorem nextRow_of_queue_eq_nil {delivery : Delivery} (drained : delivery.queue = []) :
    nextRow columns .binary delivery = .ok none delivery := by
  simp only [nextRow, drained]

end Delivery

/-- The session reads its rows from a delivery that it holds, and changes nothing else. -/
def ReadsThrough {σ : Type} [RowSession σ] (columns : Columns) (holding : Delivery → σ) : Prop :=
  ∀ delivery, RowSession.nextRow columns .binary (holding delivery) =
    Step.mapState holding (Delivery.nextRow columns .binary delivery)

theorem ReadsThrough.readBatch {σ : Type} [RowSession σ] {columns : Columns}
    {holding : Delivery → σ} (through : ReadsThrough columns holding) {delivery : Delivery}
    {rows : List PacketRow} (reads : ReadsAs columns delivery.queue rows)
    (old : Array PacketRow) :
    RowSession.readBatch columns old (holding delivery) =
      .ok (old ++ rows.toArray) (holding { delivery with queue := [] }) := by
  generalize queued : delivery.queue = queue at reads
  induction queue generalizing delivery rows old with
  | nil =>
      have none : rows = [] := List.length_eq_zero_iff.mp reads.length_eq.symm
      have ended := through delivery
      rw [Delivery.nextRow_of_queue_eq_nil queued] at ended
      rw [readBatch_of_end ended, none, ← queued]
      simp
  | cons packet rest ih =>
      obtain ⟨row, later, same, made, reads⟩ := reads.cons
      have received := through delivery
      rw [Delivery.nextRow_of_queue queued made] at received
      rw [readBatch_of_row received, ih (old.push row) rfl reads, same]
      simp

end RowCursor
