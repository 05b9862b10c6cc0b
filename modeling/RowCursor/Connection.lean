import RowCursor.BufferSet
import RowCursor.ByteStream
import RowCursor.ColumnDefinition.Packet
import RowCursor.ResultCursor

/-!
# Connections

A connection over a stream on which the handshake is over.  It opens cursors for
prepared statements without parameters, and is the session that such a cursor pages
through.

Every command starts a new exchange with sequence id 0.  What is read in answer to
it ends exactly where the response ends, so the connection stays usable whether a
cursor was opened, declined or refused.
-/

set_option autoImplicit false

namespace RowCursor

/-- A connection after its handshake. -/
structure Connection where
  stream : ByteStream
  capabilities : CapabilityFlags
  /-- The status in the last packet that carried one. -/
  status : StatusFlags := .none
  /-- Where commands are framed. -/
  buffers : BufferSet := .empty
  deriving DecidableEq, Repr

namespace Connection

def onStream {α : Type} (step : Step ByteStream α) : Step Connection α := fun connection =>
  match step connection.stream with
  | .ok value stream => .ok value { connection with stream }
  | .error error stream => .error error { connection with stream }

/-- Read a complete payload into the read buffer. -/
def readPacket : Step Connection Bytes := fun connection =>
  match ByteStream.readPayload connection.buffers.readBuffer connection.stream with
  | .ok (_, payload) stream =>
    let buffers := { connection.buffers with readBuffer := payload }
    .ok payload { connection with stream, buffers }
  | .error error stream => .error error { connection with stream }

theorem unread_of_readPacket {payload : Bytes} {before after : Connection}
    (read : readPacket before = .ok payload after) :
    after.stream.unread.length < before.stream.unread.length := by
  unfold readPacket at read
  split at read
  · rename_i received
    cases read
    exact ByteStream.unread_of_readPayload received
  · simp at read

/-- Take over the status that a packet carries. -/
def takeStatus (status : Except Error StatusFlags) : Step Connection StatusFlags := do
  let status ← Step.lift status
  modify ({ · with status })
  return status

/-! ## Commands -/

/-- Send a framed payload, cutting it up if it has to be split. -/
def transmit (payload : Bytes) : Framing → Step ByteStream Unit
  | .packet bytes => do
    ByteStream.writeAll bytes
    ByteStream.flush
  | _ => ByteStream.writePayload 0 payload

/-- Send a command.  One that fits into a single packet is framed in place. -/
def sendCommand (command : Bytes) : Step Connection Unit := do
  let (framing, buffers) :=
    ((← get).buffers.newWrite command).singlePacket 0 maxBodyLength
  modify ({ · with buffers })
  onStream (transmit buffers.payload framing)

/-- Forget a prepared statement.  The server does not answer. -/
def closeStatement (statementId : UInt32) : Step Connection Unit :=
  sendCommand (Command.closeStatement statementId).encode

/-! ## Opening a cursor -/

/-- Read the definitions of that many columns, behind those that are known.  Memory is taken to
have room for as many as are announced. -/
def readColumns : (count : Nat) → Columns → Step Connection Columns
  | 0, columns => return columns
  | count + 1, columns => do
    let column ← Step.lift (ColumnDefinition.ofPayload (← readPacket))
    readColumns count (columns.push column)

/-- Read rows, and drop them, up to the end of the result. -/
def discardRows : Step Connection Unit := fun connection =>
  match _received : readPacket connection with
  | .error error connection => .error error connection
  | .ok payload connection =>
    if isErrorPacket payload then .error (.ofPayload payload) connection
    else if isRowTerminator payload connection.capabilities then
      match terminatorStatus payload connection.capabilities with
      | .ok status => .ok () { connection with status }
      | .error error => .error error connection
    else discardRows connection
termination_by connection => connection.stream.unread.length
decreasing_by exact unread_of_readPacket _received

/-- Read the packet behind the definitions of the columns, and go on only if it says that
the server opened a cursor.

Otherwise the rows of the result follow, and are dropped up to its end.  Under
`deprecateEof` such a result has no packet between the definitions and the rows, so the
packet read here is its first row or its end. -/
def awaitCursor : Step Connection Unit := do
  let payload ← readPacket
  let capabilities := (← get).capabilities
  if isErrorPacket payload then
    throw (.ofPayload payload)
  else if isRowTerminator payload capabilities then
    let status ← takeStatus (terminatorStatus payload capabilities)
    if status.cursorExists then
      return
    else if capabilities.deprecateEof then
      throw (.notSupported .cursorDeclined)
    else
      discardRows
      throw (.notSupported .cursorDeclined)
  else if capabilities.deprecateEof then
    discardRows
    throw (.notSupported .cursorDeclined)
  else
    throw .invalidPacket

/-- Execute a prepared statement without parameters and keep its result in a
read-only cursor.  The definitions of the columns are read, and the packet behind
them. -/
def openCursor (statementId : UInt32) (options : CursorOptions) :
    Step Connection ResultCursor := do
  sendCommand (Command.execute statementId .readOnly).encode
  match ← Step.lift (ExecuteResponse.ofPayload (← readPacket)) with
  | .ok payload =>
    let _ ← takeStatus ((OkReport.ofPayload payload).map OkReport.status)
    throw (.badUsage (.noResultSet statementId))
  | .resultSet columnCount =>
    let columns ← readColumns columnCount.toNat #[]
    awaitCursor
    return .create statementId columns options

/-! ## The connection as a session -/

/-- Read the next row of a batch, or its end, into a buffer of its own. -/
def nextRow (columns : Columns) (encoding : RowEncoding) :
    Step Connection (Option PacketRow) := fun connection =>
  match ByteStream.readPayload [] connection.stream with
  | .error error stream => .error error { connection with stream }
  | .ok (_, payload) stream =>
    let connection := { connection with stream }
    if isErrorPacket payload then .error (.ofPayload payload) connection
    else if isRowTerminator payload connection.capabilities then
      match terminatorStatus payload connection.capabilities with
      | .ok status => .ok none { connection with status }
      | .error error => .error error connection
    else
      match PacketRow.ofPacketWith? payload encoding columns with
      | .ok row => .ok (some row) connection
      | .error error => .error error connection

theorem unread_of_nextRow {columns : Columns} {encoding : RowEncoding}
    {row : Option PacketRow} {before after : Connection}
    (read : nextRow columns encoding before = .ok row after) :
    after.stream.unread.length < before.stream.unread.length := by
  unfold nextRow at read
  split at read
  · simp at read
  · rename_i sequenceId payload stream received
    have shorter := ByteStream.unread_of_readPayload received
    simp only at read
    split at read
    · simp at read
    · split at read
      · split at read
        · cases read
          exact shorter
        · simp at read
      · split at read
        · cases read
          exact shorter
        · simp at read

theorem run_of_onStream {α : Type} {step : Step ByteStream α} {value : α}
    {before after : Connection} (done : onStream step before = .ok value after) :
    step before.stream = .ok value after.stream := by
  unfold onStream at done
  split at done
  · rename_i stream ran
    cases done
    exact ran
  · simp at done

theorem unread_of_transmit {payload : Bytes} {framing : Framing} {before after : ByteStream}
    (sent : transmit payload framing before = .ok () after) : after.unread = before.unread := by
  unfold transmit at sent
  split at sent
  · simp only [bind, EStateM.bind] at sent
    split at sent
    · rename_i written
      rw [ByteStream.unread_of_flush sent, ByteStream.unread_of_writeAll written]
    · simp at sent
  · exact ByteStream.unread_of_writePayload sent

theorem unread_of_sendCommand {command : Bytes} {before after : Connection}
    (sent : sendCommand command before = .ok () after) :
    after.stream.unread = before.stream.unread := by
  let framed := (before.buffers.newWrite command).singlePacket 0 maxBodyLength
  have sent : onStream (transmit framed.2.payload framed.1) { before with buffers := framed.2 } =
      .ok () after := sent
  have ran := run_of_onStream sent
  exact unread_of_transmit ran

instance : SuppliedSession Connection where
  sendCommand := sendCommand
  nextRow := nextRow
  lastRowSent connection := connection.status.lastRowSent
  batchBound connection := connection.stream.unread.length
  batchBound_lt read := unread_of_nextRow read
  supply connection := connection.stream.unread.length
  supply_sendCommand sent := by simp only [unread_of_sendCommand sent, Nat.le_refl]
  supply_nextRow read := unread_of_nextRow read
  supply_batchEnd read := Nat.le_of_lt (unread_of_nextRow read)

end Connection

end RowCursor
