import RowCursor.Command
import RowCursor.Session.Delivery

/-!
# A server with a queue for each statement

The rows of every statement wait in a queue of their own.  A fetch command is answered
from the queue of the statement that it names; how many rows answer it may depend on that
queue and on the command.  The last row is announced once the queue is empty.  Any other
command is refused.
-/

set_option autoImplicit false

namespace RowCursor

structure StatementServer where
  /-- The rows of each statement that are still to be fetched. -/
  pending : UInt32 → List Bytes
  /-- How many of the pending rows answer a fetch command that asks for so many. -/
  batchSize : (statementId rows : UInt32) → (pending : List Bytes) → Nat :=
    fun _ rows _ => rows.toNat
  delivery : Delivery := {}

namespace StatementServer

/-- Read a fetch command: the statement that it names, and the count of rows. -/
def readFetch : Reader (UInt32 × UInt32) := do
  let first ← Read.int1
  if first ≠ 0x1C then
    throw .invalidPacket
  let statementId ← Read.int4
  let rows ← Read.int4
  return (statementId, rows)

def serve (server : StatementServer) (command : Bytes) (statementId rows : UInt32) :
    StatementServer :=
  let queue := server.pending statementId
  let size := server.batchSize statementId rows queue
  { server with
    pending := fun other => if other = statementId then queue.drop size else server.pending other
    delivery := {
      server.delivery.record command |>.enqueue (queue.take size) with
      lastRowSent := (queue.drop size).isEmpty } }

def sendCommand (command : Bytes) : Step StatementServer Unit := fun server =>
  match readFetch command with
  | .ok ((statementId, rows), _) => .ok () (server.serve command statementId rows)
  | .error error => .error error server

def nextRow (columns : Columns) (encoding : RowEncoding) :
    Step StatementServer (Option PacketRow) := fun server =>
  match Delivery.nextRow columns encoding server.delivery with
  | .ok row delivery => .ok row { server with delivery }
  | .error error delivery => .error error { server with delivery }

/-- The commands that named a statement, oldest first. -/
def commandsFor (server : StatementServer) (statementId : UInt32) : List Bytes :=
  server.delivery.commands.filter fun command =>
    match readFetch command with
    | .ok ((named, _), _) => named == statementId
    | .error _ => false

theorem delivery_of_nextRow {columns : Columns} {encoding : RowEncoding}
    {row : Option PacketRow} {before after : StatementServer}
    (read : nextRow columns encoding before = .ok row after) :
    Delivery.nextRow columns encoding before.delivery = .ok row after.delivery := by
  unfold nextRow at read
  split at read
  · rename_i received
    cases read
    exact received
  · cases read

instance : RowSession StatementServer where
  sendCommand := sendCommand
  nextRow := nextRow
  lastRowSent server := server.delivery.lastRowSent
  batchBound server := server.delivery.queue.length
  batchBound_lt read := by
    have shorter := Delivery.queue_length_of_row (delivery_of_nextRow read)
    omega

end StatementServer

end RowCursor
