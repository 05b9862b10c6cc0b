import RowCursor.Proofs.ColumnDefinition
import RowCursor.Proofs.Connection.OpenCursor
import RowCursor.Proofs.Cursor.Reading

/-!
# A result over the wire

A server that keeps the result announces its columns and then answers every fetch command
with a batch of rows and its end.  Whatever form the ends have and however long the rows
are, opening the cursor and calling `next` to the end gives the rows as they were sent,
takes every packet off the stream, and sends one command to execute and one for every
batch.
-/

set_option autoImplicit false

namespace RowCursor

open PacketRow (BeginsRow binaryRow)

/-- What answers one fetch command. -/
structure Batch where
  rows : List Bytes
  terminator : Terminator
  deriving DecidableEq, Repr

namespace Batch

def payloads (batch : Batch) : List Bytes := batch.rows ++ [batch.terminator.encode]

/-- The rows as a client with this metadata has them. -/
def received (batch : Batch) (columns : Columns) : List PacketRow :=
  batch.rows.map fun row => binaryRow row columns

def lastRowSent (batch : Batch) : Bool := (StatusFlags.ofBits batch.terminator.status).lastRowSent

/-- The rows are binary rows, and the end has the form that was agreed on. -/
structure WellFormed (capabilities : CapabilityFlags) (columns : Columns) (batch : Batch) :
    Prop where
  rows : ∀ row ∈ batch.rows, BeginsRow row columns
  terminator : batch.terminator.Fits capabilities

instance (capabilities : CapabilityFlags) (columns : Columns) (batch : Batch) :
    Decidable (batch.WellFormed capabilities columns) :=
  decidable_of_iff ((∀ row ∈ batch.rows, BeginsRow row columns) ∧
    batch.terminator.Fits capabilities)
    ⟨fun ⟨rows, terminator⟩ => ⟨rows, terminator⟩,
      fun ⟨rows, terminator⟩ => ⟨rows, terminator⟩⟩

end Batch

def payloadsOf (batches : List Batch) : List Bytes := batches.flatMap Batch.payloads

/-- What is sent for the batches: the command, framed, once for each. -/
def fetches (command : Bytes) (batches : List Batch) : Bytes :=
  batches.flatMap fun _ => encodePayload 0 command

/-- A result as a server sends it that keeps it in a cursor. -/
structure CursorResult where
  definitions : List ColumnPacket
  header : Terminator
  earlier : List Batch
  last : Batch
  deriving DecidableEq, Repr

namespace CursorResult

def columns (result : CursorResult) : Columns :=
  (result.definitions.map ColumnPacket.column).toArray

def batches (result : CursorResult) : List Batch := result.earlier ++ [result.last]

def response (result : CursorResult) : List Bytes :=
  Write.intLenenc (UInt64.ofNat result.definitions.length) ::
    (result.definitions.map ColumnPacket.encode ++ [result.header.encode])

def rows (result : CursorResult) : List PacketRow :=
  result.batches.flatMap fun batch => batch.received result.columns

/-- There are columns, the server opened a cursor, and it announces the last batch and no
other.  Only that one may be empty. -/
structure WellFormed (capabilities : CapabilityFlags) (result : CursorResult) : Prop where
  definitions_ne_nil : result.definitions ≠ []
  length_lt : result.definitions.length < 2 ^ 64
  encodable : ∀ definition ∈ result.definitions, definition.Encodable
  header : result.header.Fits capabilities
  cursorExists : (StatusFlags.ofBits result.header.status).cursorExists = true
  batches : ∀ batch ∈ result.batches, batch.WellFormed capabilities result.columns
  earlier : ∀ batch ∈ result.earlier, batch.rows ≠ [] ∧ batch.lastRowSent = false
  last : result.last.lastRowSent = true

end CursorResult

namespace Connection

open Step (Ends)

variable {stream : ByteStream} {capabilities : CapabilityFlags} {connection : Connection}
variable {columns : Columns} {rest : Bytes} {payloads : List Bytes}

/-! ## One batch -/

theorem sendCommand_ends (accepts : stream.Unlimited) (command : Bytes)
    (awaits : Awaits stream capabilities payloads rest connection) :
    Ends (sendCommand command) connection (.ok ()) (Awaits
      { stream with written := stream.written ++ encodePayload 0 command } capabilities payloads
      rest) := by
  obtain ⟨unread, frames, same⟩ := awaits.stream_eq
  have unlimited : connection.stream.Unlimited := by
    rw [same]
    exact ⟨accepts.room_eq, accepts.flushFault_eq⟩
  obtain ⟨buffers, sent⟩ := sendCommand_of_unlimited unlimited command
  refine Ends.of_ok sent ⟨awaits.capabilities_eq, unread, frames, ?_⟩
  simp only [same]

theorem nextRow_of_row {row : Bytes} {sequenceId : UInt8} {after : ByteStream}
    (begins : BeginsRow row columns)
    (read : ByteStream.readPayload [] connection.stream = .ok (sequenceId, row) after) :
    nextRow columns .binary connection =
      .ok (some (binaryRow row columns)) { connection with stream := after } := by
  simp only [nextRow, read, isErrorPacket_of_row begins.1, isRowTerminator_of_row begins.1,
    begins.ofPacketWith?_eq, Bool.false_eq_true, if_false]

theorem nextRow_ends_row {row : Bytes} (begins : BeginsRow row columns)
    (awaits : Awaits stream capabilities (row :: payloads) rest connection) :
    Ends (nextRow columns .binary) connection (.ok (some (binaryRow row columns)))
      (Awaits stream capabilities payloads rest) := by
  obtain ⟨sequenceId, unread, read, later⟩ := awaits.readPayload_eq []
  exact Ends.of_ok (nextRow_of_row begins read) ⟨awaits.capabilities_eq, unread, later, rfl⟩

theorem nextRow_ends_last {last : Bytes} {status : StatusFlags}
    (terminates : Terminates capabilities last status)
    (awaits : Awaits stream capabilities (last :: payloads) rest connection) :
    Ends (nextRow columns .binary) connection (.ok none)
      fun after => Awaits stream capabilities payloads rest after ∧ after.status = status := by
  obtain ⟨sequenceId, unread, read, later⟩ := awaits.readPayload_eq []
  have moved : nextRow columns .binary connection = .ok none
      { connection with stream := { stream with unread }, status } := by
    simp only [nextRow, read, awaits.capabilities_eq, terminates.not_error,
      terminates.terminator, terminates.status_eq, Bool.false_eq_true, if_false, if_true]
  exact Ends.of_ok moved ⟨⟨awaits.capabilities_eq, unread, later, rfl⟩, rfl⟩

theorem readBatch_ends {rows : List Bytes} {last : Bytes} {status : StatusFlags}
    (known : Array PacketRow) (begin : ∀ row ∈ rows, BeginsRow row columns)
    (terminates : Terminates capabilities last status)
    (awaits : Awaits stream capabilities (rows ++ last :: payloads) rest connection) :
    Ends (RowSession.readBatch columns known) connection
      (.ok (known ++ (rows.map fun row => binaryRow row columns).toArray))
      fun after => Awaits stream capabilities payloads rest after ∧ after.status = status := by
  induction rows generalizing known connection with
  | nil =>
      obtain ⟨after, received, behind⟩ := (nextRow_ends_last terminates awaits).exists_ok
      have read : RowSession.readBatch columns known connection = .ok known after :=
        readBatch_of_end received
      rw [List.map_nil, Array.append_empty]
      exact Ends.of_ok read behind
  | cons row rows ih =>
      have here := begin row List.mem_cons_self
      obtain ⟨after, received, behind⟩ := (nextRow_ends_row here awaits).exists_ok
      have read : RowSession.readBatch columns known connection =
          RowSession.readBatch columns (known.push (binaryRow row columns)) after :=
        readBatch_of_row received
      have others := ih (known.push (binaryRow row columns))
        (fun row member => begin row (List.mem_cons_of_mem _ member)) behind
      have gathered : known ++ ((row :: rows).map fun row => binaryRow row columns).toArray =
          known.push (binaryRow row columns) ++
            (rows.map fun row => binaryRow row columns).toArray := by
        rw [← Array.toList_inj]
        simp
      rw [gathered]
      exact Ends.of_eq read others

/-! ## Batch after batch -/

theorem batch_ends (accepts : stream.Unlimited) (command : Bytes) {batch : Batch}
    (wellFormed : batch.WellFormed capabilities columns)
    (awaits : Awaits stream capabilities (batch.payloads ++ payloads) rest connection) :
    ∃ between after,
      RowSession.sendCommand command connection = .ok () between ∧
      RowSession.readBatch columns #[] between = .ok (batch.received columns).toArray after ∧
      RowSession.lastRowSent after = batch.lastRowSent ∧
      Awaits { stream with written := stream.written ++ encodePayload 0 command } capabilities
        payloads rest after := by
  obtain ⟨between, sent, awaits⟩ := (sendCommand_ends accepts command awaits).exists_ok
  rw [Batch.payloads, List.append_assoc] at awaits
  have read := readBatch_ends #[] wellFormed.rows (Terminator.terminates wellFormed.terminator) awaits
  obtain ⟨after, received, behind, status⟩ := read.exists_ok
  refine ⟨between, after, sent, ?_, ?_, behind⟩
  · rw [Array.empty_append] at received
    exact received
  · have told : RowSession.lastRowSent after = after.status.lastRowSent := rfl
    rw [told, status]
    rfl

theorem delivers_of_awaits (command : Bytes) {earlier : List Batch} {last : Batch}
    (accepts : stream.Unlimited)
    (wellFormed : ∀ batch ∈ earlier ++ [last], batch.WellFormed capabilities columns)
    (open_ : ∀ batch ∈ earlier, batch.rows ≠ [] ∧ batch.lastRowSent = false)
    (told : last.lastRowSent = true)
    (awaits : Awaits stream capabilities (payloadsOf (earlier ++ [last]) ++ payloads) rest
      connection) :
    ∃ final, ResultCursor.Delivers command columns
        ((earlier ++ [last]).map fun batch => batch.received columns) connection final ∧
      Awaits { stream with written := stream.written ++ fetches command (earlier ++ [last]) }
        capabilities payloads rest final := by
  -- Every batch is asked for on a stream to which one command more was sent.
  induction earlier generalizing stream connection with
  | nil =>
      rw [List.nil_append, payloadsOf, List.flatMap_singleton] at awaits
      obtain ⟨between, after, sent, read, announced, behind⟩ :=
        batch_ends accepts command (wellFormed last List.mem_cons_self) awaits
      refine ⟨after, .last sent read (announced.trans told), ?_⟩
      rw [List.nil_append, fetches, List.flatMap_singleton]
      exact behind
  | cons batch earlier ih =>
      obtain ⟨some_, more⟩ := open_ batch List.mem_cons_self
      rw [List.cons_append, payloadsOf, List.flatMap_cons, List.append_assoc] at awaits
      obtain ⟨between, after, sent, read, announced, behind⟩ :=
        batch_ends accepts command (wellFormed batch List.mem_cons_self) awaits
      obtain ⟨final, later, ends⟩ := ih (accepts.with_written _)
        (fun other member => wellFormed other (List.mem_cons_of_mem _ member))
        (fun other member => open_ other (List.mem_cons_of_mem _ member)) behind
      have nonempty : (batch.received columns).toArray.isEmpty = false := by
        simp [Batch.received, some_]
      refine ⟨final, .more sent read (announced.trans more) nonempty later, ?_⟩
      rw [List.cons_append, fetches, List.flatMap_cons, ← List.append_assoc]
      exact ends

/-! ## The whole result -/

theorem announces_of_wellFormed {result : CursorResult}
    (wellFormed : result.WellFormed capabilities) :
    Announces (Write.intLenenc (UInt64.ofNat result.definitions.length))
      (result.definitions.map ColumnPacket.encode)
      (result.definitions.map ColumnPacket.column) := by
  refine ⟨?_, ?_, ?_, ?_⟩
  · rw [List.length_map]
  · rw [List.length_map]
    exact List.length_pos_iff.mpr wellFormed.definitions_ne_nil
  · rw [List.length_map]
    exact wellFormed.length_lt
  · rw [List.map_map, List.map_map]
    apply List.map_congr_left
    intro definition member
    exact ColumnPacket.ofPayload_encode (wellFormed.encodable definition member)

/-- Opening a cursor over a result on the stream and calling `next` once for every row and
once more hands out all rows in order and answers that no row is left.  All packets of the
result are taken off the stream.  One command to execute was sent and one to fetch for
every batch, each of them with sequence id 0. -/
theorem openCursor_then_readAll {result : CursorResult} (statementId : UInt32)
    {options : CursorOptions} (unlimited : options.maxRows = none)
    (wellFormed : result.WellFormed connection.capabilities)
    (accepts : connection.stream.Unlimited)
    (frames : Frames connection.stream.unread
      (result.response ++ payloadsOf result.batches) rest) :
    let cursor := ResultCursor.create statementId result.columns options
    ∃ opened done final,
      openCursor statementId options connection = .ok cursor opened ∧
      ResultCursor.readAll (result.rows.length + 1) (cursor, opened) =
        .ok (some result.rows) (done, final) ∧
      final.stream = { connection.stream with
        unread := rest
        written := connection.stream.written ++
          encodePayload 0 (Command.execute statementId .readOnly).encode ++
          fetches (Command.fetch statementId options.rowsPerFetch).encode result.batches } := by
  intro cursor
  have awaits := Awaits.of_frames frames
  have asked := sendCommand_ends accepts (Command.execute statementId .readOnly).encode awaits
  have reply : ExecuteReply connection.capabilities statementId options result.response
      (.ok (.create statementId result.columns options)) :=
    .result (announces_of_wellFormed wellFormed)
      (.opened (Terminator.terminates wellFormed.header) wellFormed.cursorExists)
  obtain ⟨opened, answered, awaits⟩ := (openCursor_ends asked reply).exists_ok
  rw [← List.append_nil (payloadsOf result.batches)] at awaits
  obtain ⟨final, delivers, ends⟩ := delivers_of_awaits
    (Command.fetch statementId options.rowsPerFetch).encode (accepts.with_written _)
    wellFormed.batches wellFormed.earlier wellFormed.last awaits
  have way := ResultCursor.onTheWay_create statementId result.columns unlimited
  have needed := ResultCursor.hasNextKnown?_create statementId result.columns unlimited
  obtain ⟨done, all⟩ := way.readAll_of_delivers Connection.rowsCarry needed delivers
  rw [← List.flatMap_def] at all
  exact ⟨opened, done, final, answered, all, ends.unread_eq⟩

/-- A row in a batch of its own, and an empty batch behind it. -/
theorem row_and_empty_batch_read_to_the_end :
    let result : CursorResult := {
      definitions := [{ column := { name := "id", typeId := 0x01 } }]
      header := .ok 0 0 0x0040 0 []
      earlier := [⟨[[0x00, 0x00, 0x07]], .ok 0 0 0x0040 0 []⟩]
      last := ⟨[], .ok 0 0 0x00C0 0 []⟩ }
    let packets := (result.response ++ payloadsOf result.batches).flatMap (encodePayload 1)
    let connection : Connection :=
      { stream := { unread := packets ++ [] }, capabilities := ⟨0x01000000⟩ }
    let options : CursorOptions := {}
    let cursor := ResultCursor.create 7 result.columns options
    ∃ opened done final, openCursor 7 options connection = .ok cursor opened ∧
      ResultCursor.readAll 2 (cursor, opened) =
        .ok (some [binaryRow [0x00, 0x00, 0x07] result.columns]) (done, final) ∧
      final.stream.unread = [] := by
  intro result packets connection options cursor
  have wellFormed : result.WellFormed connection.capabilities := {
    definitions_ne_nil := by decide
    length_lt := by decide
    encodable := by decide
    header := by decide
    cursorExists := by decide
    batches := by decide
    earlier := by decide
    last := by decide }
  have accepts : connection.stream.Unlimited := ⟨rfl, rfl⟩
  have unlimited : options.maxRows = none := rfl
  obtain ⟨opened, done, final, answered, all, stream⟩ := openCursor_then_readAll 7 unlimited
    wellFormed accepts (frames_flatMap 1 _ [])
  refine ⟨opened, done, final, answered, all, ?_⟩
  rw [stream]

end Connection

end RowCursor
