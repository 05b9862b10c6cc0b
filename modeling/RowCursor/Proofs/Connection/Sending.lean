import RowCursor.Proofs.Connection.Exchange

/-!
# What a connection sends

Whatever is asked of a connection, it sends one command, as a payload with sequence id 0,
and then only receives.  That a short command is framed in the buffer of the connection
and a long one cut up cannot be told from the bytes on the stream.
-/

set_option autoImplicit false

namespace RowCursor

open Step (Keeps)

/-! ## Receiving sends nothing -/

namespace ByteStream

/-- The stream without what is left to read. -/
def outgoing (stream : ByteStream) : ByteStream := { stream with unread := [] }

theorem keeps_readExact (count : Nat) : Keeps outgoing (readExact count) := by
  intro stream
  by_cases enough : (stream.unread.take count).length = count
  · simp only [Step.after, readExact, if_pos enough, outgoing]
  · simp only [Step.after, readExact, if_neg enough, outgoing]

theorem keeps_readBodies (length : Nat) (buffer : Bytes) :
    Keeps outgoing (readBodies length buffer) := by
  intro stream
  unfold Step.after
  fun_induction readBodies length buffer stream with
  | case1 length buffer stream error behind failed => exact (keeps_readExact length).of_error failed
  | case2 length buffer stream body behind bodyRead short =>
      exact (keeps_readExact length).of_ok bodyRead
  | case3 length buffer stream body behind bodyRead full error after failed =>
      exact ((keeps_readExact _).of_error failed).trans ((keeps_readExact length).of_ok bodyRead)
  | case4 length buffer stream body behind bodyRead full header rest headerRead ih =>
      have first := (keeps_readExact length).of_ok bodyRead
      have second := (keeps_readExact _).of_ok headerRead
      exact ih.trans (second.trans first)

theorem keeps_readPayload (buffer : Bytes) : Keeps outgoing (readPayload buffer) := by
  unfold readPayload
  refine Keeps.bind (keeps_readExact _) fun header => ?_
  exact Keeps.bind (keeps_readBodies _ _) fun payload => Keeps.pure _

end ByteStream

namespace Connection

/-- What a connection has sent, and what its stream still takes. -/
def outgoing (connection : Connection) : ByteStream := connection.stream.outgoing

theorem keeps_readPacket : Keeps outgoing readPacket := by
  intro connection
  have kept := ByteStream.keeps_readPayload connection.buffers.readBuffer
  simp only [Step.after, readPacket]
  cases received : ByteStream.readPayload connection.buffers.readBuffer connection.stream with
  | ok value stream => exact kept.of_ok received
  | error error stream => exact kept.of_error received

theorem keeps_takeStatus (status : Except Error StatusFlags) :
    Keeps outgoing (takeStatus status) := by
  unfold takeStatus
  refine Keeps.bind (Keeps.lift status) fun status => ?_
  exact Keeps.bind (Keeps.modify fun _ => rfl) fun _ => Keeps.pure status

theorem keeps_readColumns (count : Nat) (columns : Columns) :
    Keeps outgoing (readColumns count columns) := by
  induction count generalizing columns with
  | zero => exact Keeps.pure columns
  | succ count ih =>
      rw [readColumns]
      refine Keeps.bind keeps_readPacket fun payload => ?_
      exact Keeps.bind (Keeps.lift _) fun column => ih _

theorem keeps_discardRows : Keeps outgoing discardRows := by
  intro connection
  unfold Step.after
  fun_induction discardRows connection with
  | case1 connection error behind failed => exact keeps_readPacket.of_error failed
  | case2 connection payload behind read refused => exact keeps_readPacket.of_ok read
  | case3 connection payload behind read row ends status known =>
      have kept := keeps_readPacket.of_ok read
      exact kept
  | case4 connection payload behind read row ends error malformed =>
      exact keeps_readPacket.of_ok read
  | case5 connection payload behind read row further ih =>
      exact ih.trans (keeps_readPacket.of_ok read)

theorem keeps_awaitCursor : Keeps outgoing awaitCursor := by
  unfold awaitCursor
  refine Keeps.bind keeps_readPacket fun payload => ?_
  refine Keeps.get_bind fun state => ?_
  refine Keeps.ite (Keeps.throw _) (Keeps.ite ?_ (Keeps.ite ?_ (Keeps.throw _)))
  · refine Keeps.bind (keeps_takeStatus _) fun status => ?_
    refine Keeps.ite (Keeps.pure _) (Keeps.ite (Keeps.throw _) ?_)
    exact Keeps.bind keeps_discardRows fun _ => Keeps.throw _
  · exact Keeps.bind keeps_discardRows fun _ => Keeps.throw _

/-! ## Commands -/

theorem stream_sendCommand (command : Bytes) (connection : Connection) :
    Step.mapState stream (sendCommand command connection) =
      ByteStream.writePayload 0 command connection.stream := by
  obtain ⟨buffers, same⟩ := sendCommand_eq command connection
  rw [same, onStream]
  cases ByteStream.writePayload 0 command connection.stream <;> rfl

/-- After its command, opening a cursor sends nothing. -/
theorem outgoing_openCursor (statementId : UInt32) (options : CursorOptions)
    (connection : Connection) :
    ((openCursor statementId options).after connection).outgoing =
      ((sendCommand (Command.execute statementId .readOnly).encode).after connection).outgoing := by
  unfold openCursor
  refine Keeps.after_bind (fun _ => ?_) _ connection
  refine Keeps.bind keeps_readPacket fun payload => ?_
  refine Keeps.bind (Keeps.lift _) fun response => ?_
  cases response with
  | ok payload => exact Keeps.bind (keeps_takeStatus _) fun _ => Keeps.throw _
  | resultSet count =>
      refine Keeps.bind (keeps_readColumns _ _) fun columns => ?_
      exact Keeps.bind keeps_awaitCursor fun _ => Keeps.pure _

/-- Writing a payload sends its packets piece by piece.  Framing in place, whatever the buffers
held before, refuses the payloads that have to be cut up and no others, and leaves the
payload as it is; where it gives a packet, the bytes are those that writing the payload
sends.  So every command leaves the connection as a payload with sequence id 0, whichever
way it was framed and whether or not the stream takes it. -/
theorem framing_in_place_agrees_with_writing (payload : Bytes) :
    (∀ sequenceId : UInt8,
      ByteStream.writePayload sequenceId payload = (do
        ByteStream.writePackets (Packet.ofPayload sequenceId payload)
        ByteStream.flush)) ∧
    (∀ (set : BufferSet) (sequenceId : UInt8),
      let framed := (set.newWrite payload).singlePacket sequenceId maxBodyLength
      (framed.1 = .tooLong ↔ maxBodyLength ≤ payload.length) ∧
      framed.2.payload = payload ∧
      (framed.1 = .tooLong ∨ ∃ bytes, framed.1 = .packet bytes ∧
        (∀ (unread sent : Bytes) (endFault : StreamFault),
          ByteStream.writePayload sequenceId payload { unread, endFault, written := sent } =
            .ok () { unread, endFault, written := sent ++ bytes }) ∧
        ByteStream.writePayload sequenceId payload = (do
          ByteStream.writeAll bytes
          ByteStream.flush))) ∧
    (∀ connection : Connection,
      Step.mapState stream (sendCommand payload connection) =
        ByteStream.writePayload 0 payload connection.stream) ∧
    ∀ (statementId : UInt32) (connection : Connection),
      Step.mapState stream (closeStatement statementId connection) =
        ByteStream.writePayload 0 (Command.closeStatement statementId).encode connection.stream ∧
      ∀ options : CursorOptions,
        let execute := (Command.execute statementId .readOnly).encode
        ((openCursor statementId options).after connection).outgoing =
          ((ByteStream.writePayload 0 execute).after connection.stream).outgoing := by
  refine ⟨fun sequenceId => ByteStream.writePayload_eq_writePackets sequenceId payload, ?_,
    stream_sendCommand payload, ?_⟩
  · intro set sequenceId framed
    have kept : framed.2.payload = payload := set.payload_singlePacket sequenceId payload
    by_cases long : maxBodyLength ≤ payload.length
    · have refused : framed.1 = .tooLong := by
        simp only [framed, BufferSet.singlePacket_of_long sequenceId long]
      exact ⟨iff_of_true refused long, kept, .inl refused⟩
    · have short : payload.length < maxBodyLength := Nat.lt_of_not_le long
      have packet : framed.1 = .packet (encodePayload sequenceId payload) := by
        simp only [framed, BufferSet.singlePacket_of_short sequenceId short]
      have taken : framed.1 ≠ .tooLong := by
        rw [packet]
        nofun
      refine ⟨iff_of_false taken long, kept, .inr ⟨_, packet, ?_,
        ByteStream.writePayload_eq sequenceId payload⟩⟩
      intro unread sent endFault
      exact ByteStream.Unlimited.writePayload_eq ⟨rfl, rfl⟩ sequenceId payload
  · intro statementId connection
    refine ⟨stream_sendCommand _ connection, ?_⟩
    intro options execute
    have sent := Step.after_of_mapState (stream_sendCommand execute connection)
    rw [outgoing_openCursor, outgoing, sent]

end Connection

end RowCursor
