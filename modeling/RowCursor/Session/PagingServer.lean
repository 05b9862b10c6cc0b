import RowCursor.Session.Delivery

/-!
# A server that pages through a list of rows

Each fetch command moves as many pending rows as it asks for into the batch.  The
last row is announced once nothing is pending, unless that is withheld; then only an
empty batch shows the end.  Chosen commands, counted from zero, fail on the way and
leave the rows alone.
-/

set_option autoImplicit false

namespace RowCursor

/-- A server with rows that are still to be fetched. -/
structure PagingServer where
  pending : List Bytes
  /-- Never announce the last row. -/
  withholdLast : Bool := false
  /-- The ordinals of the commands that fail. -/
  failing : List Nat := []
  /-- How many commands were sent, failed ones included. -/
  ordinal : Nat := 0
  delivery : Delivery := {}
  deriving DecidableEq, Repr

namespace PagingServer

/-- The count of rows that a fetch command asks for. -/
def requested (command : Bytes) : Nat :=
  ofLittleEndian ((command.drop 5).take 4)

def serve (server : PagingServer) (command : Bytes) : PagingServer :=
  let count := requested command
  let pending := server.pending.drop count
  { server with
    pending
    delivery := {
      server.delivery.record command |>.enqueue (server.pending.take count) with
      lastRowSent := pending.isEmpty && !server.withholdLast } }

def sendCommand (command : Bytes) : Step PagingServer Unit := fun server =>
  let counted := { server with ordinal := server.ordinal + 1 }
  if server.failing.contains server.ordinal then
    .error (.io (.transport "connection reset")) counted
  else .ok () (counted.serve command)

def nextRow (columns : Columns) (encoding : RowEncoding) :
    Step PagingServer (Option PacketRow) := fun server =>
  match Delivery.nextRow columns encoding server.delivery with
  | .ok row delivery => .ok row { server with delivery }
  | .error error delivery => .error error { server with delivery }

def rowsLeft (server : PagingServer) : Nat :=
  server.pending.length + server.delivery.queue.length

theorem delivery_of_nextRow {columns : Columns} {encoding : RowEncoding}
    {row : Option PacketRow} {before after : PagingServer}
    (read : nextRow columns encoding before = .ok row after) :
    Delivery.nextRow columns encoding before.delivery = .ok row after.delivery ∧
      after.pending = before.pending := by
  unfold nextRow at read
  split at read
  · rename_i received
    cases read
    exact ⟨received, rfl⟩
  · simp at read

theorem rowsLeft_serve (server : PagingServer) (command : Bytes) :
    (server.serve command).rowsLeft = server.rowsLeft := by
  simp only [rowsLeft, serve, Delivery.record, Delivery.enqueue, List.length_append,
    List.length_take, List.length_drop]
  omega

theorem rowsLeft_sendCommand {command : Bytes} {before after : PagingServer}
    (sent : sendCommand command before = .ok () after) : after.rowsLeft = before.rowsLeft := by
  unfold sendCommand at sent
  simp only at sent
  split at sent
  · simp at sent
  · cases sent
    exact rowsLeft_serve _ command

instance : SuppliedSession PagingServer where
  sendCommand := sendCommand
  nextRow := nextRow
  lastRowSent server := server.delivery.lastRowSent
  batchBound server := server.delivery.queue.length
  batchBound_lt read := by
    have shorter := Delivery.queue_length_of_row (delivery_of_nextRow read).1
    omega
  supply := rowsLeft
  supply_sendCommand sent := Nat.le_of_eq (rowsLeft_sendCommand sent)
  supply_nextRow read := by
    obtain ⟨received, pending⟩ := delivery_of_nextRow read
    have shorter := Delivery.queue_length_of_row received
    simp only [rowsLeft, pending]
    omega
  supply_batchEnd read := by
    obtain ⟨received, pending⟩ := delivery_of_nextRow read
    obtain ⟨_, same⟩ := Delivery.eq_of_batchEnd received
    simp only [rowsLeft, pending, same]
    omega

end PagingServer

end RowCursor
