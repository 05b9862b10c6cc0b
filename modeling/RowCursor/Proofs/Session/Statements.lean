import RowCursor.Proofs.Codec
import RowCursor.Proofs.Cursor.Simulation
import RowCursor.Proofs.Row.Metadata
import RowCursor.Proofs.Session.Delivery
import RowCursor.Session.StatementServer

/-!
# What a fetch for one statement does to the others

Between two fetches the queue of the current batch is empty.  A fetch for a statement then
hands out rows of that statement alone, touches nothing that the others have
(`StatementServer.FetchedFor`), and depends on nothing that they have
(`StatementServer.SameFor`).
-/

set_option autoImplicit false

namespace RowCursor.StatementServer

open ResultCursor (Told)
open Step (Alike)

variable {cursor : ResultCursor} {columns : Columns} {server left right : StatementServer}
variable {statementId : UInt32}

/-! ## The command -/

theorem readFetch_encode (statementId rows : UInt32) :
    readFetch (Command.fetch statementId rows).encode = .ok ((statementId, rows), []) := by
  have read : Read.Reads readFetch
      (Write.int1 0x1C ++ (Write.int4 statementId ++ Write.int4 rows)) (statementId, rows) := by
    unfold readFetch
    refine Read.reads_bind (Read.int1_write 0x1C) ?_
    rw [if_neg (by decide)]
    refine Read.reads_bind (Read.int4_write statementId) ?_
    exact Read.reads_map _ (Read.int4_write rows)
  have whole := read []
  rwa [List.append_nil, ← List.append_assoc] at whole

/-! ## The batch -/

/-- Every pending row of the statement starts like a row with these columns. -/
def WellFormed (server : StatementServer) (statementId : UInt32) (columns : Columns) : Prop :=
  ∀ packet ∈ server.pending statementId, PacketRow.BeginsRow packet columns

/-- The pending rows that answer the cursor's next fetch. -/
def nextBatch (server : StatementServer) (cursor : ResultCursor) : List Bytes :=
  let queue := server.pending cursor.statementId
  queue.take (server.batchSize cursor.statementId cursor.rowsToRequest queue)

/-- The pending rows that the cursor's next fetch leaves. -/
def nextPending (server : StatementServer) (cursor : ResultCursor) : List Bytes :=
  let queue := server.pending cursor.statementId
  queue.drop (server.batchSize cursor.statementId cursor.rowsToRequest queue)

/-- The server once the cursor's next fetch was answered and its rows were read. -/
def served (server : StatementServer) (cursor : ResultCursor) : StatementServer :=
  { server with
    pending := fun other =>
      if other = cursor.statementId then server.nextPending cursor else server.pending other
    delivery := {
      queue := []
      commands := server.delivery.commands ++ [cursor.fetchCommand]
      lastRowSent := (server.nextPending cursor).isEmpty } }

theorem readsAs_of_beginsRow {packets : List Bytes}
    (begins : ∀ packet ∈ packets, PacketRow.BeginsRow packet columns) :
    ReadsAs columns packets (packets.map fun packet => PacketRow.binaryRow packet columns) := by
  rw [ReadsAs, List.map_map]
  apply List.map_congr_left
  intro packet member
  exact (begins packet member).ofPacketWith?_eq

theorem readsThrough (server : StatementServer) (columns : Columns) :
    ReadsThrough columns fun delivery => { server with delivery } := by
  intro delivery
  simp only [RowSession.nextRow, nextRow]
  cases Delivery.nextRow columns .binary delivery <;> rfl

/-- A fetch succeeds, and its batch is read to the end before it returns. -/
theorem fetchBatch_eq (drained : server.delivery.queue = [])
    (wellFormed : server.WellFormed cursor.statementId columns) :
    cursor.fetchBatch columns server =
      .ok ((server.nextBatch cursor).map fun packet => PacketRow.binaryRow packet columns).toArray
        (server.served cursor) := by
  let between := server.serve cursor.fetchCommand cursor.statementId cursor.rowsToRequest
  have sent : RowSession.sendCommand cursor.fetchCommand server = .ok () between := by
    have asked := readFetch_encode cursor.statementId cursor.rowsToRequest
    simp only [RowSession.sendCommand, sendCommand, ResultCursor.fetchCommand, asked]
    rfl
  have queued : between.delivery.queue = server.nextBatch cursor := by
    simp only [between, serve, nextBatch, Delivery.record, Delivery.enqueue, drained,
      List.nil_append]
  have begins : ∀ packet ∈ between.delivery.queue, PacketRow.BeginsRow packet columns := by
    intro packet member
    rw [queued] at member
    exact wellFormed packet (List.mem_of_mem_take member)
  have read := (readsThrough between columns).readBatch (readsAs_of_beginsRow begins) #[]
  rw [Array.empty_append, queued] at read
  rw [ResultCursor.fetchBatch_eq, sent]
  refine read.trans ?_
  simp only [between, serve, served, nextPending, Delivery.record, Delivery.enqueue]

/-! ## What the fetch leaves alone -/

theorem pending_served_self (server : StatementServer) (cursor : ResultCursor) :
    (server.served cursor).pending cursor.statementId = server.nextPending cursor := if_pos rfl

theorem pending_served_of_ne (server : StatementServer)
    (apart : statementId ≠ cursor.statementId) :
    (server.served cursor).pending statementId = server.pending statementId := if_neg apart

theorem commandsFor_served (server : StatementServer) (cursor : ResultCursor)
    (statementId : UInt32) :
    (server.served cursor).commandsFor statementId = server.commandsFor statementId ++
      if cursor.statementId = statementId then [cursor.fetchCommand] else [] := by
  have asked := readFetch_encode cursor.statementId cursor.rowsToRequest
  simp only [commandsFor, served, List.filter_append, List.filter_cons, List.filter_nil,
    ResultCursor.fetchCommand, asked, beq_iff_eq]

/-- The server after is the server before, but for what concerns one statement. -/
structure FetchedFor (statementId : UInt32) (before after : StatementServer) : Prop where
  drained : after.delivery.queue = []
  batchSize_eq : after.batchSize = before.batchSize
  pending_subset : ∀ other, after.pending other ⊆ before.pending other
  pending_eq : ∀ other, other ≠ statementId → after.pending other = before.pending other
  commands_eq : ∀ other, other ≠ statementId →
    after.commandsFor other = before.commandsFor other

theorem FetchedFor.unchanged (drained : server.delivery.queue = []) :
    FetchedFor statementId server server :=
  ⟨drained, rfl, fun _ => List.Subset.refl _, fun _ _ => rfl, fun _ _ => rfl⟩

theorem fetchedFor_served (server : StatementServer) (cursor : ResultCursor) :
    FetchedFor cursor.statementId server (server.served cursor) := by
  refine ⟨rfl, rfl, ?_, ?_, ?_⟩
  · intro other packet waiting
    by_cases own : other = cursor.statementId
    · rw [own, pending_served_self] at waiting
      rw [own]
      exact List.mem_of_mem_drop waiting
    · rwa [pending_served_of_ne server own] at waiting
  · intro other apart
    exact pending_served_of_ne server apart
  · intro other apart
    rw [commandsFor_served, if_neg apart.symm, List.append_nil]

theorem fetchedFor_fetchBatch (drained : server.delivery.queue = [])
    (wellFormed : server.WellFormed cursor.statementId columns) :
    FetchedFor cursor.statementId server ((cursor.fetchBatch columns).after server) := by
  rw [Step.after, fetchBatch_eq drained wellFormed]
  exact fetchedFor_served server cursor

/-! ## What the fetch depends on -/

/-- Between two fetches a cursor of the statement cannot tell the servers apart. -/
structure SameFor (statementId : UInt32) (left right : StatementServer) : Prop where
  left_drained : left.delivery.queue = []
  right_drained : right.delivery.queue = []
  batchSize_eq : left.batchSize = right.batchSize
  pending_eq : left.pending statementId = right.pending statementId
  commands_eq : left.commandsFor statementId = right.commandsFor statementId

theorem SameFor.refl (drained : server.delivery.queue = []) :
    SameFor statementId server server := ⟨drained, drained, rfl, rfl, rfl⟩

/-- A fetch for another statement is not noticed. -/
theorem SameFor.fetchedFor {other : UInt32} {after : StatementServer}
    (same : SameFor statementId left right) (fetched : FetchedFor other left after)
    (apart : statementId ≠ other) : SameFor statementId after right where
  left_drained := fetched.drained
  right_drained := same.right_drained
  batchSize_eq := fetched.batchSize_eq.trans same.batchSize_eq
  pending_eq := (fetched.pending_eq statementId apart).trans same.pending_eq
  commands_eq := (fetched.commands_eq statementId apart).trans same.commands_eq

theorem SameFor.nextPending_eq (same : SameFor cursor.statementId left right) :
    left.nextPending cursor = right.nextPending cursor := by
  rw [nextPending, nextPending, same.batchSize_eq, same.pending_eq]

theorem SameFor.nextBatch_eq (same : SameFor cursor.statementId left right) :
    left.nextBatch cursor = right.nextBatch cursor := by
  rw [nextBatch, nextBatch, same.batchSize_eq, same.pending_eq]

theorem SameFor.served (same : SameFor cursor.statementId left right) :
    SameFor cursor.statementId (left.served cursor) (right.served cursor) where
  left_drained := rfl
  right_drained := rfl
  batchSize_eq := same.batchSize_eq
  pending_eq := by rw [pending_served_self, pending_served_self, same.nextPending_eq]
  commands_eq := by rw [commandsFor_served, commandsFor_served, same.commands_eq]

/-- The cursor's own fetch comes out alike, down to what is told about the last row. -/
theorem SameFor.fetchBatch (same : SameFor cursor.statementId left right)
    (wellFormed : left.WellFormed cursor.statementId columns) :
    Alike (Told (SameFor cursor.statementId)) (cursor.fetchBatch columns left)
      (cursor.fetchBatch columns right) := by
  have alsoRight : right.WellFormed cursor.statementId columns := by
    rw [WellFormed, ← same.pending_eq]
    exact wellFormed
  rw [fetchBatch_eq same.left_drained wellFormed, fetchBatch_eq same.right_drained alsoRight,
    same.nextBatch_eq]
  exact .ok _ ⟨same.served, congrArg List.isEmpty same.nextPending_eq⟩

end RowCursor.StatementServer
