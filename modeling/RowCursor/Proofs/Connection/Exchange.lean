import RowCursor.Connection
import RowCursor.Proofs.Framing
import RowCursor.Proofs.Response
import RowCursor.Proofs.Step

/-!
# Sending and receiving over a connection

A command leaves as one framed payload with sequence id 0, whatever its length.  What the
server answers is a list of payloads; each step that receives takes some of them off the
front and leaves the others, together with whatever follows them, for the next step.
-/

set_option autoImplicit false

namespace RowCursor

/-! ## Payloads in a row -/

/-- The bytes are the packets of these payloads, under any sequence ids, and then the
rest. -/
inductive Frames : Bytes → List Bytes → Bytes → Prop
  | nil (rest : Bytes) : Frames rest [] rest
  | cons {unread rest : Bytes} {payloads : List Bytes} (sequenceId : UInt8) (payload : Bytes)
      (later : Frames unread payloads rest) :
      Frames (encodePayload sequenceId payload ++ unread) (payload :: payloads) rest

theorem frames_flatMap (sequenceId : UInt8) (payloads : List Bytes) (rest : Bytes) :
    Frames (payloads.flatMap (encodePayload sequenceId) ++ rest) payloads rest := by
  induction payloads with
  | nil => exact .nil rest
  | cons payload payloads ih =>
      rw [List.flatMap_cons, List.append_assoc]
      exact .cons sequenceId payload ih

namespace ByteStream

theorem readPayload_buffer (buffer : Bytes) : readPayload buffer = readPayload [] := by
  simp only [readPayload, List.take_zero]

theorem written_of_writeAll {data : Bytes} {before after : ByteStream}
    (sent : writeAll data before = .ok () after) :
    ∃ room, after = { before with room, written := before.written ++ data } := by
  unfold writeAll at sent
  split at sent
  · rename_i unlimited
    cases sent
    exact ⟨none, by rw [unlimited]⟩
  · simp only at sent
    split at sent
    · rename_i room _ fits
      cases sent
      refine ⟨some (room - data.length), ?_⟩
      rw [List.take_of_length_le fits]
    · cases sent

theorem eq_of_flush {before after : ByteStream} (flushed : flush before = .ok () after) :
    after = before := by
  unfold flush at flushed
  split at flushed
  · cases flushed
    rfl
  · cases flushed

theorem written_of_writePayload {sequenceId : UInt8} {payload : Bytes} {before after : ByteStream}
    (sent : writePayload sequenceId payload before = .ok () after) :
    ∃ room, after = { before with
      room, written := before.written ++ encodePayload sequenceId payload } := by
  rw [writePayload_eq] at sent
  simp only [bind, EStateM.bind] at sent
  split at sent
  · rename_i written
    rw [eq_of_flush sent]
    exact written_of_writeAll written
  · cases sent

end ByteStream

namespace Connection

open Step (Ends)

variable {stream : ByteStream} {capabilities : CapabilityFlags} {connection : Connection}
variable {payload rest : Bytes} {payloads : List Bytes}

/-! ## Sending -/

/-- A command that fits into one packet is framed in place; the stream gets the same bytes
as from cutting it up. -/
theorem transmit_singlePacket (set : BufferSet) (command : Bytes) :
    let framed := (set.newWrite command).singlePacket 0 maxBodyLength
    transmit framed.2.payload framed.1 = ByteStream.writePayload 0 command := by
  intro framed
  rw [BufferSet.payload_singlePacket]
  by_cases long : maxBodyLength ≤ command.length
  · simp only [framed, BufferSet.singlePacket_of_long 0 long, transmit]
  · have short : command.length < maxBodyLength := Nat.lt_of_not_le long
    simp only [framed, BufferSet.singlePacket_of_short 0 short, transmit,
      ByteStream.writePayload_eq]

theorem sendCommand_eq (command : Bytes) (connection : Connection) :
    ∃ buffers, sendCommand command connection =
      onStream (ByteStream.writePayload 0 command) { connection with buffers } := by
  have transmitted := transmit_singlePacket connection.buffers command
  refine ⟨((connection.buffers.newWrite command).singlePacket 0 maxBodyLength).2, ?_⟩
  rw [← transmitted]
  rfl

theorem written_of_sendCommand {command : Bytes} {before after : Connection}
    (sent : sendCommand command before = .ok () after) :
    after.capabilities = before.capabilities ∧
      ∃ room, after.stream = { before.stream with
        room, written := before.stream.written ++ encodePayload 0 command } := by
  obtain ⟨buffers, same⟩ := sendCommand_eq command before
  rw [same, onStream] at sent
  split at sent
  · rename_i stream written
    cases sent
    exact ⟨rfl, ByteStream.written_of_writePayload written⟩
  · cases sent

theorem status_of_sendCommand (command : Bytes) : Step.Keeps status (sendCommand command) := by
  intro connection
  obtain ⟨buffers, same⟩ := sendCommand_eq command connection
  rw [Step.after, same, onStream]
  cases ByteStream.writePayload 0 command connection.stream <;> rfl

theorem sendCommand_of_unlimited (unlimited : connection.stream.Unlimited) (command : Bytes) :
    ∃ buffers, sendCommand command connection = .ok () { connection with
      buffers
      stream := { connection.stream with
        written := connection.stream.written ++ encodePayload 0 command } } := by
  obtain ⟨buffers, same⟩ := sendCommand_eq command connection
  refine ⟨buffers, ?_⟩
  rw [same, onStream, unlimited.writePayload_eq 0 command]

/-! ## Receiving -/

/-- Next on the stream, which is otherwise as given, are these payloads and then the
rest. -/
structure Awaits (stream : ByteStream) (capabilities : CapabilityFlags) (payloads : List Bytes)
    (rest : Bytes) (connection : Connection) : Prop where
  capabilities_eq : connection.capabilities = capabilities
  stream_eq : ∃ unread, Frames unread payloads rest ∧ connection.stream = { stream with unread }

theorem Awaits.unread_eq (awaits : Awaits stream capabilities [] rest connection) :
    connection.stream = { stream with unread := rest } := by
  obtain ⟨unread, frames, same⟩ := awaits.stream_eq
  cases frames
  exact same

theorem Awaits.of_frames (frames : Frames connection.stream.unread payloads rest) :
    Awaits connection.stream connection.capabilities payloads rest connection :=
  ⟨rfl, _, frames, rfl⟩

theorem Awaits.readPayload_eq
    (awaits : Awaits stream capabilities (payload :: payloads) rest connection) (buffer : Bytes) :
    ∃ sequenceId unread,
      ByteStream.readPayload buffer connection.stream =
        .ok (sequenceId, payload) { stream with unread } ∧
      Frames unread payloads rest := by
  obtain ⟨unread, frames, same⟩ := awaits.stream_eq
  cases frames with
  | @cons unread _ _ sequenceId _ later =>
      refine ⟨sequenceId, unread, ?_, later⟩
      rw [same]
      exact stream.readPayload_encodePayload sequenceId payload buffer unread

theorem asked_ends {command : Bytes} {asked : Connection}
    (sent : sendCommand command connection = .ok () asked)
    (frames : Frames connection.stream.unread payloads rest) :
    Ends (sendCommand command) connection (.ok ())
      (Awaits asked.stream connection.capabilities payloads rest) := by
  obtain ⟨kept, room, asked_eq⟩ := written_of_sendCommand sent
  refine Ends.of_ok sent ⟨kept, connection.stream.unread, frames, ?_⟩
  rw [asked_eq]

theorem readPacket_ends (awaits : Awaits stream capabilities (payload :: payloads) rest connection) :
    Ends readPacket connection (.ok payload) (Awaits stream capabilities payloads rest) := by
  obtain ⟨sequenceId, unread, read, later⟩ := awaits.readPayload_eq connection.buffers.readBuffer
  have taken : readPacket connection = .ok payload { connection with
      stream := { stream with unread }
      buffers := { connection.buffers with readBuffer := payload } } := by
    simp only [readPacket, read]
  exact Ends.of_ok taken ⟨awaits.capabilities_eq, unread, later, rfl⟩

theorem takeStatus_ends {status : StatusFlags}
    (awaits : Awaits stream capabilities payloads rest connection) :
    Ends (takeStatus (.ok status)) connection (.ok status)
      (Awaits stream capabilities payloads rest) :=
  ⟨rfl, awaits.capabilities_eq, awaits.stream_eq⟩

theorem readColumns_ends {definitions : List Bytes} {columns : List ColumnDefinition}
    (known : Columns) (parsed : definitions.map ColumnDefinition.ofPayload = columns.map .ok)
    (awaits : Awaits stream capabilities (definitions ++ payloads) rest connection) :
    Ends (readColumns definitions.length known) connection (.ok (known ++ columns.toArray))
      (Awaits stream capabilities payloads rest) := by
  induction definitions generalizing columns known connection with
  | nil =>
      cases columns with
      | nil =>
          rw [List.length_nil, readColumns, Array.append_empty]
          exact Ends.pure known awaits
      | cons column columns => cases parsed
  | cons definition definitions ih =>
      cases columns with
      | nil => cases parsed
      | cons column columns =>
          obtain ⟨first, others⟩ := List.cons.inj parsed
          rw [List.length_cons, readColumns]
          refine Ends.bind (readPacket_ends awaits) ?_
          intro between awaits
          rw [first]
          refine Ends.bind (Ends.lift (.ok column) awaits) ?_
          intro between awaits
          have gathered : known ++ (column :: columns).toArray =
              known.push column ++ columns.toArray := by
            rw [← Array.toList_inj]
            simp
          rw [gathered]
          exact ih (known.push column) others awaits

/-! ## The end of the rows -/

/-- The payload stands where the rows of a result end, and tells whether they are
complete. -/
inductive RowsEnd (capabilities : CapabilityFlags) (payload : Bytes) : Except Error Unit → Prop
  | complete {status : StatusFlags} (terminates : Terminates capabilities payload status) :
      RowsEnd capabilities payload (.ok ())
  | cutShort {report : ServerReport} (reported : ServerReport.ofPayload payload = .ok report) :
      RowsEnd capabilities payload (.error (.server report))

theorem discardRows_eq : discardRows = (do
    let payload ← readPacket
    let capabilities := (← get).capabilities
    if isErrorPacket payload then throw (.ofPayload payload)
    else if isRowTerminator payload capabilities then
      let _ ← takeStatus (terminatorStatus payload capabilities)
      return ()
    else discardRows : Step Connection Unit) := by
  funext connection
  rw [discardRows]
  simp only [bind, EStateM.bind]
  split
  · rename_i failed
    rw [failed]
  · rename_i payload behind read
    rw [read]
    simp only [Step.get_apply]
    split
    · rfl
    · split
      · cases terminatorStatus payload behind.capabilities with
        | ok status => rfl
        | error error => rfl
      · rfl

theorem discardRows_ends {rows : List Bytes} {last : Bytes} {outcome : Except Error Unit}
    (binary : ∀ row ∈ rows, row.head? = some 0x00) (ending : RowsEnd capabilities last outcome)
    (awaits : Awaits stream capabilities (rows ++ last :: payloads) rest connection) :
    Ends discardRows connection outcome (Awaits stream capabilities payloads rest) := by
  induction rows generalizing connection with
  | nil =>
      rw [discardRows_eq]
      refine Ends.bind (readPacket_ends awaits) ?_
      intro between awaits
      refine Ends.get_bind ?_
      rw [awaits.capabilities_eq]
      cases ending with
      | complete terminates =>
          rw [if_neg (Bool.eq_false_iff.mp terminates.not_error), if_pos terminates.terminator,
            terminates.status_eq]
          exact Ends.bind (takeStatus_ends awaits) fun after awaits => Ends.pure () awaits
      | cutShort reported =>
          rw [if_pos (isErrorPacket_of_report reported), Error.ofPayload, reported]
          exact Ends.throw _ awaits
  | cons row rows ih =>
      have here := binary row List.mem_cons_self
      rw [discardRows_eq]
      refine Ends.bind (readPacket_ends awaits) ?_
      intro between awaits
      refine Ends.get_bind ?_
      rw [if_neg (Bool.eq_false_iff.mp (isErrorPacket_of_row here)),
        if_neg (Bool.eq_false_iff.mp (isRowTerminator_of_row here))]
      exact ih (fun row member => binary row (List.mem_cons_of_mem _ member)) awaits

end Connection

end RowCursor
