import RowCursor.Proofs.Connection.Paging
import RowCursor.Proofs.Connection.Past
import RowCursor.Proofs.Cursor.FailedFetch

/-!
# Reports in the response to a fetch command

A server may break off a batch behind any of its rows and report an error instead.  The
fetch then fails with the report, and the connection is left right behind it, as if the
command had been sent and nothing had come back for it (`fetchFails_of_report`).  What the
cursor's owner does later comes out as over a connection on which that fetch was never made.
-/

set_option autoImplicit false

namespace RowCursor.Connection

open PacketRow (BeginsRow binaryRow)
open Progress (AnswersAlike SameProgress)

variable {connection asked : Connection} {columns : Columns} {rows : List Bytes}
variable {report : ServerReport} {rest : Bytes}

/-- The batch breaks off at the report, and all of it is taken off the stream. -/
theorem breaksOff_of_report (begin : ∀ row ∈ rows, BeginsRow row columns)
    (encodable : report.Encodable)
    (frames : Frames connection.stream.unread (rows ++ [report.encode]) rest) :
    BreaksOff columns (rows.map fun row => binaryRow row columns) connection (.server report)
      { connection with stream := { connection.stream with unread := rest } } := by
  induction rows generalizing connection with
  | nil =>
      obtain ⟨sequenceId, unread, read, later⟩ := (Awaits.of_frames frames).readPayload_eq []
      cases later
      have reported := ServerReport.ofPayload_encode encodable
      refine .here ?_
      simp only [RowSession.nextRow, nextRow, read, isErrorPacket_of_report reported,
        Error.ofPayload, reported, if_true]
  | cons row rows ih =>
      obtain ⟨sequenceId, unread, read, later⟩ := (Awaits.of_frames frames).readPayload_eq []
      exact .behind (nextRow_of_row (begin row List.mem_cons_self) read)
        (ih (fun row member => begin row (List.mem_cons_of_mem _ member)) later)

theorem fetchFails_of_report {command : Bytes}
    (sent : sendCommand command connection = .ok () asked)
    (begin : ∀ row ∈ rows, BeginsRow row columns) (encodable : report.Encodable)
    (frames : Frames connection.stream.unread (rows ++ [report.encode]) rest) :
    FetchFails command columns connection (.server report)
      { asked with stream := { asked.stream with unread := rest } } := by
  rw [← unread_of_sendCommand sent] at frames
  exact .brokenOff _ sent (breaksOff_of_report begin encodable frames)

/-- A report behind any number of rows fails the call that fetched them.  Exactly these
packets are taken off the stream, one command was sent for them, and the last status stays.
The next call fetches again.  From there on, the owner of the cursor is served, and can ask,
just as over a connection on which neither the failed command nor its response has been; in
particular none of its rows is handed out. -/
theorem report_in_batch_leaves_no_trace {cursor : ResultCursor} (reached : cursor.Reachable)
    (opened : cursor.columns = some columns) (needed : cursor.hasNextKnown? = none)
    (sent : sendCommand cursor.fetchCommand connection = .ok () asked)
    (begin : ∀ row ∈ rows, BeginsRow row columns) (encodable : report.Encodable)
    (frames : Frames connection.stream.unread (rows ++ [report.encode]) rest) :
    let failure : Error := .fetchFailed cursor.statementId (.server report)
    let room := asked.stream.room
    let after : Connection := { asked with stream := { connection.stream with
      unread := rest, room
      written := connection.stream.written ++ encodePayload 0 cursor.fetchCommand } }
    let untouched : Connection :=
      { connection with stream := { connection.stream with unread := rest, room } }
    ResultCursor.hasNext (cursor, connection) = .error failure (cursor, after) ∧
      ResultCursor.next (cursor, connection) = .error failure (cursor, after) ∧
      after.status = connection.status ∧
      (ResultCursor.next.after (cursor, Recorded.ofSession after)).2.commands =
        [cursor.fetchCommand] ∧
      ∀ (handed : List PacketRow) (ended : Bool) (calls : List OwnerCall),
        let behind : Progress Connection := { cursor, session := after, handed, ended }
        let without : Progress Connection := { cursor, session := untouched, handed, ended }
        List.Forall₂ (fun one other => AnswersAlike one other ∧
            SameProgress (SameView after.stream.written untouched.stream.written) one other)
          (behind.lifetime calls) (without.lifetime calls) := by
  intro failure room after untouched
  have regular := reached.regular opened
  obtain ⟨capabilities, _, asked_eq⟩ := written_of_sendCommand sent
  have fails : FetchFails cursor.fetchCommand columns connection (.server report) after := by
    have cut : after = { asked with stream := { asked.stream with unread := rest } } := by
      simp only [after, room, asked_eq]
    rw [cut]
    exact fetchFails_of_report sent begin encodable frames
  have status : after.status = connection.status := by
    have kept := status_of_sendCommand cursor.fetchCommand connection
    rw [Step.after, sent] at kept
    exact kept
  refine ⟨ResultCursor.hasNext_of_fetchFails regular opened needed fails,
    ResultCursor.next_of_fetchFails regular opened needed fails, status, ?_, ?_⟩
  · rw [ResultCursor.session_next opened,
      ResultCursor.commands_hasNext regular opened needed]
    rfl
  · intro handed ended calls behind without
    have view : SameView after.stream.written untouched.stream.written after untouched := by
      refine ⟨⟨capabilities, [], ?_, ?_⟩, status⟩
      · rw [List.append_nil]
      · rw [List.append_nil]
    have same : SameProgress (SameView after.stream.written untouched.stream.written) behind
        without := ⟨rfl, view, rfl, rfl⟩
    refine (same.lifetime indistinct_sameView calls).imp ?_
    intro one other same
    exact ⟨same.answersAlike indistinct_sameView, same⟩

/-- A row and a report, then the response to the next command.  The row that is handed out
is the one behind the report. -/
theorem row_behind_report_is_handed_out :
    let columns : Columns := #[.ofType .tiny]
    let report : ServerReport := ⟨1317, "70100", "Query execution was interrupted"⟩
    let lost : Bytes := [0x00, 0x00, 0x07]
    let row : Bytes := [0x00, 0x00, 0x08]
    let rest := encodePayload 1 row ++ encodePayload 2 (Terminator.ok 0 0 0x00C0 0 []).encode
    let connection : Connection :=
      { stream := { unread := encodePayload 1 lost ++ (encodePayload 2 report.encode ++ rest) },
        capabilities := ⟨0x01000000⟩ }
    let cursor := ResultCursor.create 7 columns {}
    ∃ after, ResultCursor.next (cursor, connection) =
        .error (.fetchFailed 7 (.server report)) (cursor, after) ∧
      after.stream.unread = rest ∧
      ResultCursor.next.answer (cursor, after) = .ok (some (binaryRow row columns)) := by
  intro columns report lost row rest connection cursor
  have unlimited : connection.stream.Unlimited := ⟨rfl, rfl⟩
  obtain ⟨buffers, sent⟩ := sendCommand_of_unlimited unlimited cursor.fetchCommand
  have begin : ∀ other ∈ [lost], BeginsRow other columns := by decide
  have encodable : report.Encodable := by decide
  have frames : Frames connection.stream.unread ([lost] ++ [report.encode]) rest :=
    .cons 1 _ (.cons 2 _ (.nil _))
  obtain ⟨_, failed, _, _, later⟩ := report_in_batch_leaves_no_trace (.created 7 columns {}) rfl rfl
    sent begin encodable frames
  refine ⟨_, failed, rfl, ?_⟩
  -- What is asked now is answered as if the first response had not been.
  have fresh : ResultCursor.next.answer (cursor, ({ connection with
      stream := { connection.stream with unread := rest } } : Connection)) =
        .ok (some (binaryRow row columns)) := by
    decide +kernel
  cases later [] false [] with
  | cons first _ => exact first.1.2.trans fresh

end RowCursor.Connection
