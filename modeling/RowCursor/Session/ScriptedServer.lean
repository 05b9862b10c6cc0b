import RowCursor.Session.Delivery

/-!
# A server that follows a script

Every command is answered by the next reply of a list, whatever it asks for.  A
reply refuses the command, or delivers rows, may change what is told about the last
row, and may let the batch end with a failure instead of its regular end.
-/

set_option autoImplicit false

namespace RowCursor

/-- The answer to one command. -/
inductive Reply where
  /-- The command fails on the way. -/
  | refuse (error : Error)
  /-- Rows arrive.  `lastRowSent` is kept as it is unless told. -/
  | deliver (rows : List Bytes) (lastRowSent : Option Bool) (failure : Option Error)
  deriving DecidableEq, Repr

/-- A server with the replies that are left. -/
structure ScriptedServer where
  replies : List Reply
  /-- The failure that awaits the reader at the end of the batch. -/
  failure : Option Error := none
  delivery : Delivery := {}
  deriving DecidableEq, Repr

namespace ScriptedServer

/-- Send a command.  A failure that was left over from the batch before is dropped. -/
def sendCommand (command : Bytes) : Step ScriptedServer Unit := fun server =>
  match server.replies with
  | [] => .error (.badUsage (.other "no more replies")) { server with failure := none }
  | .refuse error :: replies => .error error { server with replies, failure := none }
  | .deliver rows lastRowSent failure :: replies =>
    let delivery := server.delivery.record command |>.enqueue rows
    .ok () {
      replies, failure
      delivery := { delivery with lastRowSent := lastRowSent.getD delivery.lastRowSent } }

def nextRow (columns : Columns) (encoding : RowEncoding) :
    Step ScriptedServer (Option PacketRow) := fun server =>
  match Delivery.nextRow columns encoding server.delivery with
  | .ok (some row) delivery => .ok (some row) { server with delivery }
  | .ok none delivery =>
    match server.failure with
    | some error => .error error { server with delivery, failure := none }
    | none => .ok none { server with delivery }
  | .error error delivery => .error error { server with delivery }

def replyRows : Reply → Nat
  | .refuse _ => 0
  | .deliver rows _ _ => rows.length

/-- The rows that are waiting or in replies to come. -/
def rowsLeft (server : ScriptedServer) : Nat :=
  server.replies.foldr (replyRows · + ·) 0 + server.delivery.queue.length

theorem delivery_of_nextRow {columns : Columns} {encoding : RowEncoding}
    {row : Option PacketRow} {before after : ScriptedServer}
    (read : nextRow columns encoding before = .ok row after) :
    Delivery.nextRow columns encoding before.delivery = .ok row after.delivery ∧
      after.replies = before.replies := by
  unfold nextRow at read
  split at read
  · rename_i received
    cases read
    exact ⟨received, rfl⟩
  · rename_i received
    split at read
    · simp at read
    · cases read
      exact ⟨received, rfl⟩
  · simp at read

theorem rowsLeft_sendCommand {command : Bytes} {before after : ScriptedServer}
    (sent : sendCommand command before = .ok () after) : after.rowsLeft = before.rowsLeft := by
  unfold sendCommand at sent
  split at sent
  · simp at sent
  · simp at sent
  · rename_i rows lastRowSent failure replies script
    cases sent
    simp only [rowsLeft, script, List.foldr_cons, replyRows, Delivery.record,
      Delivery.enqueue, List.length_append]
    omega

instance : SuppliedSession ScriptedServer where
  sendCommand := sendCommand
  nextRow := nextRow
  lastRowSent server := server.delivery.lastRowSent
  batchBound server := server.delivery.queue.length
  batchBound_lt read := by
    have shorter := Delivery.queue_length_of_row (delivery_of_nextRow read).1
    omega
  supply := rowsLeft
  supply_sendCommand sent := Nat.le_of_eq (rowsLeft_sendCommand sent)
  supply_nextRow read := by
    obtain ⟨received, replies⟩ := delivery_of_nextRow read
    have shorter := Delivery.queue_length_of_row received
    simp only [rowsLeft, replies]
    omega
  supply_batchEnd read := by
    obtain ⟨received, replies⟩ := delivery_of_nextRow read
    obtain ⟨_, same⟩ := Delivery.eq_of_batchEnd received
    simp only [rowsLeft, replies, same]
    omega

end ScriptedServer

end RowCursor
