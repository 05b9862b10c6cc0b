import RowCursor.Proofs.Bytes
import RowCursor.Proofs.Session.Delivery
import RowCursor.Session.PagingServer

/-!
# What a paging server answers to a fetch

A fetch over a paging server with well-formed rows fails without a trace but for the
ordinal, or delivers as many of the pending rows as the command asks for.
-/

set_option autoImplicit false

namespace RowCursor

namespace PagingServer

variable {columns : Columns} {rows : List PacketRow} {server : PagingServer}

theorem requested_fetch (statementId count : UInt32) :
    requested (Command.fetch statementId count).encode = count.toNat := by
  have front : (Write.int1 0x1C ++ Write.int4 statementId).length = 5 := by
    rw [List.length_append, Write.int4, littleEndian_length]
    rfl
  have back : (Write.int4 count).length = 4 := littleEndian_length 4 _
  have small : count.toNat < 256 ^ 4 := count.toNat_lt
  rw [requested, Command.encode, List.drop_left' front, ← back, List.take_length, Write.int4,
    ofLittleEndian_littleEndian, Nat.mod_eq_of_lt small]

theorem readsThrough (server : PagingServer) (columns : Columns) :
    ReadsThrough columns fun delivery => { server with delivery } := by
  intro delivery
  simp only [RowSession.nextRow, nextRow]
  cases Delivery.nextRow columns .binary delivery <;> rfl

/-- The server once a fetch command was answered and its rows were read. -/
def served (server : PagingServer) (command : Bytes) (count : Nat) : PagingServer :=
  let pending := server.pending.drop count
  { server with
    pending
    ordinal := server.ordinal + 1
    delivery := {
      queue := []
      commands := server.delivery.commands ++ [command]
      lastRowSent := pending.isEmpty && !server.withholdLast } }

theorem fetchBatch_of_failing (cursor : ResultCursor) (columns : Columns)
    (fails : server.ordinal ∈ server.failing) :
    cursor.fetchBatch columns server = .error (.io (.transport "connection reset"))
      { server with ordinal := server.ordinal + 1 } := by
  have refused : server.failing.contains server.ordinal = true := List.contains_iff_mem.mpr fails
  simp only [ResultCursor.fetchBatch_eq, RowSession.sendCommand, sendCommand, refused, if_true]

theorem fetchBatch_of_served (cursor : ResultCursor) (passes : server.ordinal ∉ server.failing)
    (drained : server.delivery.queue = []) (reads : ReadsAs columns server.pending rows) :
    cursor.fetchBatch columns server =
      .ok (rows.take cursor.rowsToRequest.toNat).toArray
        (server.served cursor.fetchCommand cursor.rowsToRequest.toNat) := by
  have answered : server.failing.contains server.ordinal = false := by
    cases refused : server.failing.contains server.ordinal with
    | false => rfl
    | true => exact absurd (List.contains_iff_mem.mp refused) passes
  have asked : requested cursor.fetchCommand = cursor.rowsToRequest.toNat :=
    requested_fetch cursor.statementId cursor.rowsToRequest
  let between := { server with ordinal := server.ordinal + 1 }.serve cursor.fetchCommand
  have sent : RowSession.sendCommand cursor.fetchCommand server = .ok () between := by
    simp only [RowSession.sendCommand, sendCommand, answered]
    rfl
  have queued : between.delivery.queue =
      server.pending.take cursor.rowsToRequest.toNat := by
    simp only [between, serve, asked, Delivery.record, Delivery.enqueue, drained, List.nil_append]
  have ready := reads.take cursor.rowsToRequest.toNat
  rw [← queued] at ready
  have read := (readsThrough between columns).readBatch ready #[]
  rw [Array.empty_append] at read
  rw [ResultCursor.fetchBatch_eq, sent]
  refine read.trans ?_
  simp only [between, serve, served, asked, Delivery.record, Delivery.enqueue]

end PagingServer

end RowCursor
