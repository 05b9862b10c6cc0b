import RowCursor.Proofs.ColumnDefinition
import RowCursor.Proofs.Connection.OpenCursor

/-!
# Reports in the response to an execute command

A server may break off its response at any packet and report an error instead.  Every
phase of opening a cursor looks out for a report, with one exception: a report in place of
the definition of a column is read as that definition.  It is refused there, and what it
reports is lost.
-/

set_option autoImplicit false

namespace RowCursor.Connection

open Step (Ends)

variable {stream : ByteStream} {capabilities : CapabilityFlags} {connection : Connection}
variable {statementId : UInt32} {options : CursorOptions}
variable {rest : Bytes} {payloads : List Bytes}

/-! ## Places of a report -/

/-- Room for the definitions of all columns is set aside before the first is read.  For fewer
columns than this there is room, and a statement never has more. -/
def columnBound : Nat := 0x10000

/-- What a report stands in place of. -/
inductive ReportPlace where
  /-- The first packet. -/
  | response
  | definition
  /-- The packet behind the definitions. -/
  | definitionsEnd
  /-- A row, or the end of the rows, of a result that is passed over. -/
  | row
  deriving DecidableEq, Repr

/-- The payloads lead up to this place of the response. -/
inductive LeadsTo (capabilities : CapabilityFlags) : ReportPlace → List Bytes → Prop
  | response : LeadsTo capabilities .response []
  | definition {count : UInt64} {definitions : List Bytes} {columns : List ColumnDefinition}
      (parsed : definitions.map ColumnDefinition.ofPayload = columns.map .ok)
      (open_ : definitions.length < count.toNat) (bounded : count.toNat < columnBound) :
      LeadsTo capabilities .definition (Write.intLenenc count :: definitions)
  | definitionsEnd {count : Bytes} {definitions : List Bytes} {columns : List ColumnDefinition}
      (announces : Announces count definitions columns) :
      LeadsTo capabilities .definitionsEnd (count :: definitions)
  | row {count terminator : Bytes} {definitions rows : List Bytes}
      {columns : List ColumnDefinition} {status : StatusFlags}
      (announces : Announces count definitions columns)
      (plain : capabilities.deprecateEof = false)
      (terminates : Terminates capabilities terminator status)
      (dropped : status.cursorExists = false)
      (binary : ∀ row ∈ rows, row.head? = some 0x00) :
      LeadsTo capabilities .row (count :: (definitions ++ terminator :: rows))
  | inlineRow {count row : Bytes} {definitions rows : List Bytes}
      {columns : List ColumnDefinition}
      (announces : Announces count definitions columns)
      (deprecated : capabilities.deprecateEof = true)
      (binary : ∀ other ∈ row :: rows, other.head? = some 0x00) :
      LeadsTo capabilities .row (count :: (definitions ++ row :: rows))

/-! ## In place of a definition -/

theorem readColumns_add (first later : Nat) (known : Columns) :
    readColumns (first + later) known = readColumns first known >>= readColumns later := by
  induction first generalizing known with
  | zero =>
      rw [Nat.zero_add]
      rfl
  | succ first ih =>
      rw [Nat.succ_add, readColumns, readColumns]
      simp only [bind_assoc, ih]

theorem readColumns_ends_of_refused {definitions : List Bytes} {columns : List ColumnDefinition}
    {broken : Bytes} {error : Error} {count : Nat} (known : Columns)
    (parsed : definitions.map ColumnDefinition.ofPayload = columns.map .ok)
    (refused : ColumnDefinition.ofPayload broken = .error error)
    (open_ : definitions.length < count)
    (awaits : Awaits stream capabilities (definitions ++ broken :: payloads) rest connection) :
    Ends (readColumns count known) connection (.error error)
      (Awaits stream capabilities payloads rest) := by
  obtain ⟨later, rfl⟩ := Nat.exists_eq_add_of_lt open_
  rw [Nat.add_assoc, readColumns_add]
  refine Ends.bind (readColumns_ends known parsed awaits) ?_
  intro between awaits
  rw [readColumns]
  refine Ends.bind (readPacket_ends awaits) ?_
  intro behind awaits
  rw [refused]
  exact Ends.bind_error (Ends.lift _ awaits)

theorem openCursor_ends_of_refused {definitions : List Bytes} {columns : List ColumnDefinition}
    {broken : Bytes} {error : Error} {count : UInt64}
    (parsed : definitions.map ColumnDefinition.ofPayload = columns.map .ok)
    (refused : ColumnDefinition.ofPayload broken = .error error)
    (open_ : definitions.length < count.toNat)
    (asked : Ends (sendCommand (Command.execute statementId .readOnly).encode) connection (.ok ())
      (Awaits stream capabilities (Write.intLenenc count :: (definitions ++ broken :: payloads))
        rest)) :
    Ends (openCursor statementId options) connection (.error error)
      (Awaits stream capabilities payloads rest) := by
  have positive : 0 < count.toNat := Nat.zero_lt_of_lt open_
  unfold openCursor
  refine Ends.bind asked ?_
  intro between awaits
  refine Ends.bind (readPacket_ends awaits) ?_
  intro between awaits
  rw [ofPayload_count positive]
  refine Ends.bind (Ends.lift _ awaits) ?_
  intro between awaits
  exact Ends.bind_error (readColumns_ends_of_refused #[] parsed refused open_ awaits)

/-! ## In any place -/

/-- With a report behind them, the payloads are a whole response, unless the report stands
in place of a definition. -/
theorem LeadsTo.executeReply {place : ReportPlace} {earlier : List Bytes} {payload : Bytes}
    {report : ServerReport} (leads : LeadsTo capabilities place earlier)
    (elsewhere : place ≠ .definition) (reported : ServerReport.ofPayload payload = .ok report) :
    ExecuteReply capabilities statementId options (earlier ++ [payload])
      (.error (.server report)) := by
  cases leads with
  | response => exact .refused reported
  | definition _ _ _ => exact absurd rfl elsewhere
  | definitionsEnd announces => exact .result announces (.refused reported)
  | row announces plain terminates dropped binary =>
      rw [List.cons_append, List.append_assoc]
      exact .result announces
        (.declined plain terminates dropped binary (.cutShort reported))
  | inlineRow announces deprecated binary =>
      rw [List.cons_append, List.append_assoc]
      exact .result announces (.declinedInline deprecated binary (.cutShort reported))

/-- A report ends the response wherever it stands.  It is answered with its code, state and
text in every place but one: in place of the definition of a column, all that is answered
is that the packet is invalid. -/
theorem openCursor_answers_report {place : ReportPlace} {earlier : List Bytes}
    {report : ServerReport} {asked : Connection}
    (sent : sendCommand (Command.execute statementId .readOnly).encode connection = .ok () asked)
    (leads : LeadsTo connection.capabilities place earlier) (encodable : report.Encodable)
    (frames : Frames connection.stream.unread (earlier ++ [report.encode]) rest) :
    (openCursor statementId options).answer connection =
        .error (if place = .definition then .invalidPacket else .server report) ∧
      ((openCursor statementId options).after connection).stream =
        { asked.stream with unread := rest } := by
  have reported := ServerReport.ofPayload_encode encodable
  have executed := asked_ends sent frames
  by_cases here : place = .definition
  · subst place
    rw [if_pos rfl]
    cases leads with
    | definition parsed open_ _ =>
        have marked : report.encode.head? = some 0xFF := rfl
        have refused := ColumnDefinition.ofPayload_of_marked marked
        have ends : Ends (openCursor statementId options) connection (.error .invalidPacket)
            (Awaits asked.stream connection.capabilities [] rest) :=
          openCursor_ends_of_refused parsed refused open_ executed
        exact ⟨ends.answer_eq, ends.holds.unread_eq⟩
  · rw [if_neg here]
    have whole : ExecuteReply connection.capabilities statementId options
        (earlier ++ [report.encode]) (.error (.server report)) := leads.executeReply here reported
    rw [← List.append_nil (earlier ++ [report.encode])] at executed
    have ends := openCursor_ends executed whole
    exact ⟨ends.answer_eq, ends.holds.unread_eq⟩

/-- A result that is passed over is cut short behind its first row. -/
theorem report_behind_inline_row_is_answered :
    let definition : Bytes := List.replicate 6 0x00 ++
      [0x0C, 0x3F, 0x00, 0x04, 0x00, 0x00, 0x00, 0x03, 0x00, 0x00, 0x00, 0x00, 0x00]
    let report : ServerReport := ⟨1317, "70100", "Query was interrupted"⟩
    let row : Bytes := [0x00, 0x00, 0x07]
    let connection : Connection :=
      { stream := { unread := encodePayload 1 [0x01] ++ (encodePayload 2 definition ++
          (encodePayload 3 row ++ (encodePayload 4 report.encode ++ [0xAA]))) },
        capabilities := ⟨0x01000000⟩ }
    LeadsTo connection.capabilities .row [[0x01], definition, row] ∧ report.Encodable ∧
      Frames connection.stream.unread ([[0x01], definition, row] ++ [report.encode]) [0xAA] ∧
      (openCursor 1 {}).answer connection = .error (.server report) := by
  intro definition report row connection
  have unlimited : connection.stream.Unlimited := ⟨rfl, rfl⟩
  obtain ⟨buffers, sent⟩ :=
    sendCommand_of_unlimited unlimited (Command.execute 1 .readOnly).encode
  have frames : Frames connection.stream.unread
      ([[0x01], definition, row] ++ [report.encode]) [0xAA] :=
    .cons 1 _ (.cons 2 _ (.cons 3 _ (.cons 4 _ (.nil _))))
  have announces : Announces [0x01] [definition]
      [{ charset := 63, columnLength := 4, typeId := 0x03 }] := ⟨rfl, by decide, by decide, rfl⟩
  have deprecated : connection.capabilities.deprecateEof = true := by decide
  have binary : ∀ other ∈ [row], other.head? = some 0x00 := by decide
  have leads : LeadsTo connection.capabilities .row [[0x01], definition, row] :=
    .inlineRow announces deprecated binary
  have encodable : report.Encodable := by decide
  exact ⟨leads, encodable, frames, (openCursor_answers_report sent leads encodable frames).1⟩

/-- Of a report in place of the first definition nothing is left in the answer. -/
theorem report_for_definition_is_lost :
    let report : ServerReport := ⟨1064, "42000", "bad"⟩
    let connection : Connection :=
      { stream := { unread := encodePayload 1 [0x01] ++ (encodePayload 2 report.encode ++ []) },
        capabilities := ⟨0⟩ }
    LeadsTo connection.capabilities .definition [[0x01]] ∧ report.Encodable ∧
      Frames connection.stream.unread ([[0x01]] ++ [report.encode]) [] ∧
      (openCursor 1 {}).answer connection ≠ .error (.server report) := by
  intro report connection
  have parsed : ([] : List Bytes).map ColumnDefinition.ofPayload =
      ([] : List ColumnDefinition).map .ok := rfl
  have open_ : ([] : List Bytes).length < (1 : UInt64).toNat := by decide
  have bounded : (1 : UInt64).toNat < columnBound := by decide
  have frames : Frames connection.stream.unread ([[0x01]] ++ [report.encode]) [] :=
    .cons 1 _ (.cons 2 _ (.nil _))
  have unlimited : connection.stream.Unlimited := ⟨rfl, rfl⟩
  obtain ⟨buffers, sent⟩ :=
    sendCommand_of_unlimited unlimited (Command.execute 1 .readOnly).encode
  have refused : ColumnDefinition.ofPayload report.encode = .error .invalidPacket :=
    ColumnDefinition.ofPayload_of_marked rfl
  have answered : (openCursor 1 {}).answer connection = .error .invalidPacket :=
    (openCursor_ends_of_refused parsed refused open_ (asked_ends sent frames)).answer_eq
  refine ⟨.definition parsed open_ bounded, by decide, frames, ?_⟩
  rw [answered]
  intro same
  cases same

end RowCursor.Connection
