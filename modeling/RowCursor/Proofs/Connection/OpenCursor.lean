import RowCursor.Proofs.Connection.Past

/-!
# Where the response to an execute command ends

The packet behind the definitions of the columns decides what is left to read.  With a
cursor, nothing is.  Without one the rows of the result are still to come, unless that
packet was itself their end, or already the first of them.  Opening a cursor reads the
response up to its last packet in every case and not beyond, so the next command on the
connection meets its own response.
-/

set_option autoImplicit false

namespace RowCursor.Connection

open Step (Ends)

variable {stream : ByteStream} {capabilities : CapabilityFlags} {connection : Connection}
variable {statementId : UInt32} {options : CursorOptions}
variable {rest : Bytes} {payloads : List Bytes}

/-! ## Responses -/

/-- A count of columns, and the definitions of as many columns. -/
structure Announces (count : Bytes) (definitions : List Bytes) (columns : List ColumnDefinition) :
    Prop where
  counted : count = Write.intLenenc (UInt64.ofNat definitions.length)
  length_pos : 0 < definitions.length
  length_lt : definitions.length < 2 ^ 64
  parsed : definitions.map ColumnDefinition.ofPayload = columns.map .ok

/-- What is said about a cursor that was declined, once its rows are passed over. -/
def declined : Except Error Unit → Error
  | .ok () => .notSupported .cursorDeclined
  | .error error => error

/-- What follows the definitions of the columns, and what becomes of the cursor. -/
inductive CursorReply (capabilities : CapabilityFlags) : List Bytes → Except Error Unit → Prop
  | opened {terminator : Bytes} {status : StatusFlags}
      (terminates : Terminates capabilities terminator status)
      (kept : status.cursorExists = true) :
      CursorReply capabilities [terminator] (.ok ())
  | refused {payload : Bytes} {report : ServerReport}
      (reported : ServerReport.ofPayload payload = .ok report) :
      CursorReply capabilities [payload] (.error (.server report))
  /-- The end of the definitions, and then all rows. -/
  | declined {terminator last : Bytes} {status : StatusFlags} {rows : List Bytes}
      {ending : Except Error Unit} (plain : capabilities.deprecateEof = false)
      (terminates : Terminates capabilities terminator status)
      (dropped : status.cursorExists = false)
      (binary : ∀ row ∈ rows, row.head? = some 0x00)
      (ends : RowsEnd capabilities last ending) :
      CursorReply capabilities (terminator :: (rows ++ [last])) (.error (Connection.declined ending))
  /-- No rows: the end of the definitions is the end of the rows. -/
  | declinedEmpty {terminator : Bytes} {status : StatusFlags}
      (deprecated : capabilities.deprecateEof = true)
      (terminates : Terminates capabilities terminator status)
      (dropped : status.cursorExists = false) :
      CursorReply capabilities [terminator] (.error (.notSupported .cursorDeclined))
  /-- The rows right behind the definitions. -/
  | declinedInline {row last : Bytes} {rows : List Bytes} {ending : Except Error Unit}
      (deprecated : capabilities.deprecateEof = true)
      (binary : ∀ other ∈ row :: rows, other.head? = some 0x00)
      (ends : RowsEnd capabilities last ending) :
      CursorReply capabilities (row :: (rows ++ [last])) (.error (Connection.declined ending))

/-- The response to an execute command, and what it means for who wants a cursor. -/
inductive ExecuteReply (capabilities : CapabilityFlags) (statementId : UInt32)
    (options : CursorOptions) : List Bytes → Except Error ResultCursor → Prop
  | noResult {payload : Bytes} {report : OkReport} (marker : payload.head? = some 0x00)
      (reported : OkReport.ofPayload payload = .ok report) :
      ExecuteReply capabilities statementId options [payload]
        (.error (.badUsage (.noResultSet statementId)))
  | refused {payload : Bytes} {report : ServerReport}
      (reported : ServerReport.ofPayload payload = .ok report) :
      ExecuteReply capabilities statementId options [payload] (.error (.server report))
  | result {count : Bytes} {definitions behind : List Bytes} {columns : List ColumnDefinition}
      {outcome : Except Error Unit} (announces : Announces count definitions columns)
      (reply : CursorReply capabilities behind outcome) :
      ExecuteReply capabilities statementId options (count :: (definitions ++ behind))
        (outcome.map fun _ => .create statementId columns.toArray options)

/-! ## Reading them -/

theorem decline_ends {rows : List Bytes} {last : Bytes} {ending : Except Error Unit}
    (binary : ∀ row ∈ rows, row.head? = some 0x00) (ends : RowsEnd capabilities last ending)
    (awaits : Awaits stream capabilities (rows ++ last :: payloads) rest connection) :
    Ends (do discardRows; throw (.notSupported .cursorDeclined) : Step Connection Unit) connection
      (.error (declined ending)) (Awaits stream capabilities payloads rest) := by
  have discarded := discardRows_ends binary ends awaits
  cases ending with
  | ok _ => exact Ends.bind discarded fun after awaits => Ends.throw _ awaits
  | error error => exact Ends.bind_error discarded

theorem awaitCursor_ends {reply : List Bytes} {outcome : Except Error Unit}
    (meaning : CursorReply capabilities reply outcome)
    (awaits : Awaits stream capabilities (reply ++ payloads) rest connection) :
    Ends awaitCursor connection outcome (Awaits stream capabilities payloads rest) := by
  unfold awaitCursor
  cases meaning with
  | opened terminates kept =>
      refine Ends.bind (readPacket_ends awaits) ?_
      intro between awaits
      refine Ends.get_bind ?_
      simp only [awaits.capabilities_eq, terminates.not_error, terminates.terminator,
        terminates.status_eq, Bool.false_eq_true, if_true, if_false]
      refine Ends.bind (takeStatus_ends awaits) ?_
      intro after awaits
      rw [if_pos kept]
      exact Ends.pure () awaits
  | refused reported =>
      refine Ends.bind (readPacket_ends awaits) ?_
      intro between awaits
      refine Ends.get_bind ?_
      simp only [isErrorPacket_of_report reported, if_true, Error.ofPayload, reported]
      exact Ends.throw _ awaits
  | @declined terminator last status rows ending plain terminates dropped binary ends =>
      rw [List.cons_append, List.append_assoc] at awaits
      refine Ends.bind (readPacket_ends awaits) ?_
      intro between awaits
      refine Ends.get_bind ?_
      simp only [awaits.capabilities_eq, terminates.not_error, terminates.terminator,
        terminates.status_eq, plain, Bool.false_eq_true, if_true, if_false]
      refine Ends.bind (takeStatus_ends awaits) ?_
      intro after awaits
      simp only [dropped, Bool.false_eq_true, if_false]
      exact decline_ends binary ends awaits
  | declinedEmpty deprecated terminates dropped =>
      -- Without rows there is no second end to wait for.
      refine Ends.bind (readPacket_ends awaits) ?_
      intro between awaits
      refine Ends.get_bind ?_
      simp only [awaits.capabilities_eq, terminates.not_error, terminates.terminator,
        terminates.status_eq, deprecated, Bool.false_eq_true, if_true, if_false]
      refine Ends.bind (takeStatus_ends awaits) ?_
      intro after awaits
      simp only [dropped, Bool.false_eq_true, if_false]
      exact Ends.throw _ awaits
  | @declinedInline row last rows ending deprecated binary ends =>
      have here := binary row List.mem_cons_self
      rw [List.cons_append, List.append_assoc] at awaits
      refine Ends.bind (readPacket_ends awaits) ?_
      intro between awaits
      refine Ends.get_bind ?_
      simp only [awaits.capabilities_eq, isErrorPacket_of_row here, isRowTerminator_of_row here,
        deprecated, Bool.false_eq_true, if_true, if_false]
      exact decline_ends (fun other member => binary other (List.mem_cons_of_mem _ member)) ends
        awaits

theorem openCursor_ends {reply : List Bytes} {outcome : Except Error ResultCursor}
    (asked : Ends (sendCommand (Command.execute statementId .readOnly).encode) connection (.ok ())
      (Awaits stream capabilities (reply ++ payloads) rest))
    (meaning : ExecuteReply capabilities statementId options reply outcome) :
    Ends (openCursor statementId options) connection outcome
      (Awaits stream capabilities payloads rest) := by
  unfold openCursor
  refine Ends.bind asked ?_
  intro between awaits
  cases meaning with
  | noResult marker reported =>
      refine Ends.bind (readPacket_ends awaits) ?_
      intro between awaits
      rw [ofPayload_of_okMarker marker]
      refine Ends.bind (Ends.lift _ awaits) ?_
      intro between awaits
      simp only [reported, Except.map]
      exact Ends.bind (takeStatus_ends awaits) fun after awaits => Ends.throw _ awaits
  | refused reported =>
      refine Ends.bind (readPacket_ends awaits) ?_
      intro between awaits
      rw [ofPayload_of_report reported]
      exact Ends.bind_error (Ends.lift _ awaits)
  | @result count definitions behind columns outcome announces reply =>
      have number : (UInt64.ofNat definitions.length).toNat = definitions.length :=
        UInt64.toNat_ofNat_of_lt' announces.length_lt
      have positive : 0 < (UInt64.ofNat definitions.length).toNat := by
        rw [number]
        exact announces.length_pos
      rw [List.cons_append, List.append_assoc] at awaits
      refine Ends.bind (readPacket_ends awaits) ?_
      intro between awaits
      rw [announces.counted, ofPayload_count positive]
      refine Ends.bind (Ends.lift _ awaits) ?_
      intro between awaits
      simp only [number]
      refine Ends.bind (readColumns_ends #[] announces.parsed awaits) ?_
      intro between awaits
      have awaited := awaitCursor_ends reply awaits
      rw [Array.empty_append]
      cases outcome with
      | ok _ => exact Ends.bind awaited fun after awaits => Ends.pure _ awaits
      | error error => exact Ends.bind_error awaited

/-! ## The next command -/

/-- Opening a cursor reads the response to its end and leaves what follows.  The next
cursor is opened as on a connection to whose stream nothing else has happened. -/
theorem openCursor_stops_behind_reply {asked : Connection} {reply : List Bytes}
    {outcome : Except Error ResultCursor}
    (sent : sendCommand (Command.execute statementId .readOnly).encode connection = .ok () asked)
    (frames : Frames connection.stream.unread reply rest)
    (meaning : ExecuteReply connection.capabilities statementId options reply outcome) :
    let after := (openCursor statementId options).after connection
    (openCursor statementId options).answer connection = outcome ∧
    after.capabilities = connection.capabilities ∧
    after.stream = { asked.stream with unread := rest } ∧
    after.stream.written = connection.stream.written ++
      encodePayload 0 (Command.execute statementId .readOnly).encode ∧
    ∀ (nextId : UInt32) (nextOptions : CursorOptions),
      let fresh : Connection :=
        { stream := { asked.stream with unread := rest, written := [] },
          capabilities := connection.capabilities }
      let later := (openCursor nextId nextOptions).after after
      let other := (openCursor nextId nextOptions).after fresh
      (openCursor nextId nextOptions).answer after =
        (openCursor nextId nextOptions).answer fresh ∧
      later.stream = { other.stream with
        written := after.stream.written ++ other.stream.written } := by
  obtain ⟨capabilities, room, asked_eq⟩ := written_of_sendCommand sent
  have waiting : Awaits asked.stream connection.capabilities (reply ++ []) rest asked := by
    rw [List.append_nil]
    refine ⟨capabilities, connection.stream.unread, frames, ?_⟩
    rw [asked_eq]
  have executed : Ends (sendCommand (Command.execute statementId .readOnly).encode) connection
      (.ok ()) (Awaits asked.stream connection.capabilities (reply ++ []) rest) :=
    Ends.of_ok sent waiting
  have ends := openCursor_ends executed meaning
  have kept := ends.holds.capabilities_eq
  have ahead := ends.holds.unread_eq
  refine ⟨ends.answer_eq, kept, ahead, ?_, ?_⟩
  · rw [ahead, asked_eq]
  · intro nextId nextOptions fresh later other
    -- The status, the buffers and what was sent are the past of this connection.
    have same : SameAhead ((openCursor statementId options).after connection).stream.written []
        ((openCursor statementId options).after connection) fresh := by
      refine ⟨kept, [], ?_, ?_⟩
      · rw [List.append_nil]
      · rw [ahead]
        rfl
    obtain ⟨answers, _, more, written, alike⟩ := respects_openCursor nextId nextOptions _ _ same
    refine ⟨answers, ?_⟩
    have alike : other.stream = { later.stream with written := [] ++ more } := alike
    rw [alike, List.nil_append, ← written]

/-- Without a cursor a row and the end of the result are passed over, and the next byte is
left. -/
theorem declined_with_row_leaves_next_byte :
    let definition : Bytes := List.replicate 6 0x00 ++
      [0x0C, 0x3F, 0x00, 0x04, 0x00, 0x00, 0x00, 0x03, 0x00, 0x00, 0x00, 0x00, 0x00]
    let eof : Bytes := [0xFE, 0x00, 0x00, 0x02, 0x00]
    let connection : Connection :=
      { stream := { unread := encodePayload 1 [0x01] ++ (encodePayload 2 definition ++
          (encodePayload 3 eof ++ (encodePayload 4 [0x00, 0x00, 0x07] ++
            (encodePayload 5 eof ++ [0xAA])))) },
        capabilities := ⟨0⟩ }
    ∃ asked, sendCommand (Command.execute 1 .readOnly).encode connection = .ok () asked ∧
      (openCursor 1 {}).answer connection = .error (.notSupported .cursorDeclined) ∧
      ((openCursor 1 {}).after connection).stream = { asked.stream with unread := [0xAA] } := by
  intro definition eof connection
  have unlimited : connection.stream.Unlimited := ⟨rfl, rfl⟩
  obtain ⟨buffers, sent⟩ :=
    sendCommand_of_unlimited unlimited (Command.execute 1 .readOnly).encode
  have frames : Frames connection.stream.unread
      [[0x01], definition, eof, [0x00, 0x00, 0x07], eof] [0xAA] :=
    .cons 1 _ (.cons 2 _ (.cons 3 _ (.cons 4 _ (.cons 5 _ (.nil _)))))
  have announces : Announces [0x01] [definition]
      [{ charset := 63, columnLength := 4, typeId := 0x03 }] := ⟨rfl, by decide, by decide, rfl⟩
  have fits : (Terminator.eof 0 0x0002).Fits connection.capabilities := by decide
  have terminates : Terminates connection.capabilities eof ⟨0x0002⟩ := Terminator.terminates fits
  have plain : connection.capabilities.deprecateEof = false := by decide
  have dropped : StatusFlags.cursorExists ⟨0x0002⟩ = false := by decide
  have binary : ∀ row ∈ [[0x00, 0x00, (0x07 : UInt8)]], row.head? = some 0x00 := by decide
  have meaning : ExecuteReply connection.capabilities 1 {}
      [[0x01], definition, eof, [0x00, 0x00, 0x07], eof]
      (.error (.notSupported .cursorDeclined)) :=
    .result announces (.declined plain terminates dropped binary (.complete terminates))
  have stops := openCursor_stops_behind_reply sent frames meaning
  exact ⟨_, sent, stops.1, stops.2.2.1⟩

end RowCursor.Connection
