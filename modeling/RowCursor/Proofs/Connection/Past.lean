import RowCursor.Proofs.Connection.Exchange
import RowCursor.Proofs.Cursor.Simulation

/-!
# The past of a connection

Two connections may have the same bytes ahead of them and differ in their past: in what
was sent, in the last status and in what their buffers hold.  Opening a cursor depends on
none of this; over both connections it answers alike, reads and sends alike, and leaves
them alike again.  A cursor depends on the last status besides, and on nothing else
(`Connection.indistinct_sameView`).
-/

set_option autoImplicit false

namespace RowCursor

open Step (Respects)

variable {first second : Bytes}

namespace ByteStream

/-- The streams differ only in what was sent, `first` and `second`, before the same bytes
were sent over both. -/
def SameAhead (first second : Bytes) (left right : ByteStream) : Prop :=
  ∃ sent, left.written = first ++ sent ∧ right = { left with written := second ++ sent }

theorem SameAhead.with_written {left right : ByteStream} (same : SameAhead first second left right)
    (room : Option Nat) (data : Bytes) :
    SameAhead first second { left with room, written := left.written ++ data }
      { right with room, written := right.written ++ data } := by
  obtain ⟨sent, written, rfl⟩ := same
  refine ⟨sent ++ data, ?_, ?_⟩
  · rw [written, List.append_assoc]
  · rw [List.append_assoc]

theorem respects_readExact (count : Nat) :
    Respects (SameAhead first second) (readExact count) := by
  rintro left _ ⟨sent, written, rfl⟩
  by_cases enough : (left.unread.take count).length = count
  · exact Step.AgreesAt.of_ok _ (if_pos enough) (if_pos enough) ⟨sent, written, rfl⟩
  · exact Step.AgreesAt.of_error _ (if_neg enough) (if_neg enough) ⟨sent, written, rfl⟩

theorem respects_readBodies (length : Nat) (buffer : Bytes) :
    Respects (SameAhead first second) (readBodies length buffer) := by
  intro left right same
  -- The bytes ahead bound the count of bodies.
  induction ahead : left.unread.length using Nat.strongRecOn generalizing
    length buffer left right with
  | ind bound ih =>
      rw [readBodies_eq]
      refine (respects_readExact length left right same).bind ?_
      intro body behind other bodyRead same
      split
      · exact Respects.pure _ behind other same
      · rename_i full
        refine (respects_readExact _ behind other same).bind ?_
        intro header rest others headerRead same
        refine ih rest.unread.length ?_ _ _ rest others same rfl
        have bodyLength := congrArg List.length (unread_of_readExact bodyRead).2
        have headerLength := congrArg List.length (unread_of_readExact headerRead).2
        have size := (unread_of_readExact headerRead).1
        simp only [List.length_append, PacketHeader.size] at *
        omega

theorem respects_readPayload (buffer : Bytes) :
    Respects (SameAhead first second) (readPayload buffer) := by
  unfold readPayload
  refine Respects.bind (respects_readExact _) fun header => ?_
  exact Respects.bind (respects_readBodies _ _) fun payload => Respects.pure _

theorem respects_writeAll (data : Bytes) : Respects (SameAhead first second) (writeAll data) := by
  intro left right same
  have room : right.room = left.room := by
    obtain ⟨sent, _, rfl⟩ := same
    rfl
  cases limited : left.room with
  | none =>
      rw [limited] at room
      refine Step.AgreesAt.of_ok () ?_ ?_ (same.with_written none data)
      · simp only [writeAll, limited]
      · simp only [writeAll, room]
  | some limit =>
      rw [limited] at room
      have accepted := same.with_written (some (limit - (data.take limit).length)) (data.take limit)
      by_cases fits : data.length ≤ limit
      · refine Step.AgreesAt.of_ok () ?_ ?_ accepted
        · simp only [writeAll, limited, if_pos fits]
        · simp only [writeAll, room, if_pos fits]
      · refine Step.AgreesAt.of_error (.io .writeStalled) ?_ ?_ accepted
        · simp only [writeAll, limited, if_neg fits]
        · simp only [writeAll, room, if_neg fits]

theorem respects_flush : Respects (SameAhead first second) flush := by
  rintro left _ ⟨sent, written, rfl⟩
  cases faulty : left.flushFault with
  | none =>
      refine Step.AgreesAt.of_ok () ?_ ?_ ⟨sent, written, rfl⟩
      · simp only [flush, faulty]
      · simp only [flush, faulty]
  | some fault =>
      refine Step.AgreesAt.of_error (.io fault) ?_ ?_ ⟨sent, written, rfl⟩
      · simp only [flush, faulty]
      · simp only [flush, faulty]

theorem respects_writePayload (sequenceId : UInt8) (payload : Bytes) :
    Respects (SameAhead first second) (writePayload sequenceId payload) := by
  rw [writePayload_eq]
  exact Respects.bind (respects_writeAll _) fun _ => respects_flush

end ByteStream

namespace Connection

/-- The connections differ only in their past. -/
structure SameAhead (first second : Bytes) (left right : Connection) : Prop where
  capabilities_eq : left.capabilities = right.capabilities
  stream : ByteStream.SameAhead first second left.stream right.stream

theorem respects_onStream {α : Type} {step : Step ByteStream α}
    (respects : Respects (ByteStream.SameAhead first second) step) :
    Respects (SameAhead first second) (onStream step) := by
  intro left right same
  rcases (respects left.stream right.stream same.stream).cases with
    ⟨value, after, other, ran, otherRan, ahead⟩ | ⟨error, after, other, failed, otherFailed, ahead⟩
  · have here : onStream step left = .ok value { left with stream := after } := by
      rw [onStream, ran]
    have there : onStream step right = .ok value { right with stream := other } := by
      rw [onStream, otherRan]
    exact Step.AgreesAt.of_ok value here there ⟨same.capabilities_eq, ahead⟩
  · have here : onStream step left = .error error { left with stream := after } := by
      rw [onStream, failed]
    have there : onStream step right = .error error { right with stream := other } := by
      rw [onStream, otherFailed]
    exact Step.AgreesAt.of_error error here there ⟨same.capabilities_eq, ahead⟩

theorem respects_sendCommand (command : Bytes) :
    Respects (SameAhead first second) (sendCommand command) := by
  intro left right same
  obtain ⟨leftBuffers, leftSent⟩ := sendCommand_eq command left
  obtain ⟨rightBuffers, rightSent⟩ := sendCommand_eq command right
  have sent := respects_onStream (ByteStream.respects_writePayload 0 command)
    { left with buffers := leftBuffers } { right with buffers := rightBuffers }
    ⟨same.capabilities_eq, same.stream⟩
  unfold Step.AgreesAt Step.answer Step.after at sent ⊢
  rw [leftSent, rightSent]
  exact sent

/-- What the read buffer holds before is dropped. -/
theorem readPacket_eq : readPacket = (do
    let (_, payload) ← onStream (ByteStream.readPayload [])
    modify fun connection =>
      { connection with buffers := { connection.buffers with readBuffer := payload } }
    return payload : Step Connection Bytes) := by
  funext connection
  simp only [readPacket, onStream, bind, EStateM.bind, ByteStream.readPayload_buffer]
  cases ByteStream.readPayload [] connection.stream with
  | ok received stream => rfl
  | error error stream => rfl

theorem respects_readPacket : Respects (SameAhead first second) readPacket := by
  rw [readPacket_eq]
  refine Respects.bind (respects_onStream (ByteStream.respects_readPayload [])) fun received => ?_
  refine Respects.bind (Respects.modify ?_) fun _ => Respects.pure _
  intro left right same
  exact ⟨same.capabilities_eq, same.stream⟩

theorem respects_takeStatus_of_kept {related : Connection → Connection → Prop}
    (kept : ∀ (status : StatusFlags) (left right : Connection), related left right →
      related { left with status } { right with status }) (status : Except Error StatusFlags) :
    Respects related (takeStatus status) := by
  unfold takeStatus
  refine Respects.bind (Respects.lift status) fun status => ?_
  exact Respects.bind (Respects.modify (kept status)) fun _ => Respects.pure status

theorem respects_takeStatus (status : Except Error StatusFlags) :
    Respects (SameAhead first second) (takeStatus status) :=
  respects_takeStatus_of_kept (fun _ _ _ same => ⟨same.capabilities_eq, same.stream⟩) status

theorem respects_readColumns (count : Nat) (columns : Columns) :
    Respects (SameAhead first second) (readColumns count columns) := by
  induction count generalizing columns with
  | zero => exact Respects.pure columns
  | succ count ih =>
      rw [readColumns]
      refine Respects.bind respects_readPacket fun payload => ?_
      exact Respects.bind (Respects.lift _) fun column => ih _

theorem respects_discardRows : Respects (SameAhead first second) discardRows := by
  intro left right same
  -- Every round takes a packet off both streams.
  induction ahead : left.stream.unread.length using Nat.strongRecOn generalizing left right with
  | ind bound ih =>
      rw [discardRows_eq]
      refine (respects_readPacket left right same).bind ?_
      intro payload behind other read same
      have shorter := unread_of_readPacket read
      rw [ahead] at shorter
      have further := ih _ shorter behind other same rfl
      unfold Step.AgreesAt at further ⊢
      simp only [Step.answer_get_bind, Step.after_get_bind, ← same.capabilities_eq]
      split
      · exact Respects.throw _ behind other same
      · split
        · exact Respects.bind (respects_takeStatus _) (fun _ => Respects.pure ()) behind other same
        · exact further

theorem respects_awaitCursor : Respects (SameAhead first second) awaitCursor := by
  unfold awaitCursor
  refine Respects.bind respects_readPacket fun payload => ?_
  refine Respects.get_bind ?_ fun state => ?_
  · intro left right same
    simp only [same.capabilities_eq]
  refine Respects.ite (Respects.throw _) (Respects.ite ?_ (Respects.ite ?_ (Respects.throw _)))
  · refine Respects.bind (respects_takeStatus _) fun status => ?_
    refine Respects.ite (Respects.pure _) (Respects.ite (Respects.throw _) ?_)
    exact Respects.bind respects_discardRows fun _ => Respects.throw _
  · exact Respects.bind respects_discardRows fun _ => Respects.throw _

theorem respects_openCursor (statementId : UInt32) (options : CursorOptions) :
    Respects (SameAhead first second) (openCursor statementId options) := by
  unfold openCursor
  refine Respects.bind (respects_sendCommand _) fun _ => ?_
  refine Respects.bind respects_readPacket fun payload => ?_
  refine Respects.bind (Respects.lift _) fun response => ?_
  cases response with
  | ok payload => exact Respects.bind (respects_takeStatus _) fun _ => Respects.throw _
  | resultSet count =>
      refine Respects.bind (respects_readColumns _ _) fun columns => ?_
      exact Respects.bind respects_awaitCursor fun _ => Respects.pure _

/-! ## As a session -/

/-- The connections differ only in their past, and the last status is the same. -/
def SameView (first second : Bytes) (left right : Connection) : Prop :=
  SameAhead first second left right ∧ left.status = right.status

theorem respects_view_onStream {α : Type} {step : Step ByteStream α}
    (respects : Respects (ByteStream.SameAhead first second) step) :
    Respects (SameView first second) (onStream step) := by
  refine (respects_onStream respects).with_kept fun connection => ?_
  rw [Step.after, onStream]
  cases step connection.stream <;> rfl

theorem respects_view_sendCommand (command : Bytes) :
    Respects (SameView first second) (sendCommand command) :=
  (respects_sendCommand command).with_kept (status_of_sendCommand command)

theorem respects_view_takeStatus (status : Except Error StatusFlags) :
    Respects (SameView first second) (takeStatus status) := by
  refine respects_takeStatus_of_kept ?_ status
  rintro status left right ⟨same, _⟩
  exact ⟨⟨same.capabilities_eq, same.stream⟩, rfl⟩

theorem nextRow_eq (columns : Columns) (encoding : RowEncoding) : nextRow columns encoding = (do
    let (_, payload) ← onStream (ByteStream.readPayload [])
    let capabilities := (← get).capabilities
    if isErrorPacket payload then throw (.ofPayload payload)
    else if isRowTerminator payload capabilities then
      let _ ← takeStatus (terminatorStatus payload capabilities)
      return none
    else
      let row ← Step.lift (PacketRow.ofPacketWith? payload encoding columns)
      return some row : Step Connection (Option PacketRow)) := by
  funext connection
  simp only [nextRow, onStream, bind, EStateM.bind]
  cases ByteStream.readPayload [] connection.stream with
  | error error stream => rfl
  | ok received stream =>
      obtain ⟨sequenceId, payload⟩ := received
      simp only [Step.get_apply]
      split
      · rfl
      · split
        · cases terminatorStatus payload connection.capabilities <;> rfl
        · cases PacketRow.ofPacketWith? payload encoding columns <;> rfl

theorem respects_view_nextRow (columns : Columns) (encoding : RowEncoding) :
    Respects (SameView first second) (nextRow columns encoding) := by
  rw [nextRow_eq]
  refine Respects.bind (respects_view_onStream (ByteStream.respects_readPayload [])) ?_
  rintro ⟨sequenceId, payload⟩
  refine Respects.get_bind ?_ fun state => ?_
  · rintro left right ⟨same, _⟩
    simp only [same.capabilities_eq]
  · refine Respects.ite (Respects.throw _) (Respects.ite ?_ ?_)
    · exact Respects.bind (respects_view_takeStatus _) fun _ => Respects.pure none
    · exact Respects.bind (Respects.lift _) fun row => Respects.pure (some row)

/-- No cursor tells two connections apart that differ only in their past. -/
theorem indistinct_sameView : ResultCursor.Indistinct (SameView first second) :=
  ResultCursor.indistinct_of_respects respects_view_sendCommand
    (fun columns => respects_view_nextRow columns .binary)
    fun _ _ same => congrArg StatusFlags.lastRowSent same.2

end Connection

end RowCursor
