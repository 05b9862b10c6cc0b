import RowCursor.Proofs.Cursor.FailedFetch

/-!
# Moves that fail

A move to the next row of an open cursor fails in two ways.  Either its fetch fails, and
the cursor is left as it was; or the row next in order (`ReachesRow`) does not take the
metadata of the cursor, and only a row that does not carry it already can refuse
(`failed_next_stays_or_is_refused`).  No other row is passed.
-/

set_option autoImplicit false

namespace RowCursor

/-! ## Rows as they are -/

/-- A session whose rows all wait in one batch, and keep the metadata that they have. -/
structure GivenRows where
  rows : List PacketRow

namespace GivenRows

def nextRow (session : GivenRows) : EStateM.Result Error GivenRows (Option PacketRow) :=
  match session.rows with
  | [] => .ok none session
  | row :: rows => .ok (some row) { rows }

instance : RowSession GivenRows where
  sendCommand _ := pure ()
  nextRow _ _ := nextRow
  lastRowSent session := session.rows.isEmpty
  batchBound session := session.rows.length
  batchBound_lt received := by
    unfold nextRow at received
    split at received
    · cases received
    · rename_i waiting
      cases received
      rw [waiting]
      exact Nat.lt_succ_self _

end GivenRows

namespace ResultCursor

section

variable {σ : Type} [RowSession σ] {cursor later : ResultCursor} {columns : Columns}
  {session after : σ} {error : Error}

/-! ## The row next in order -/

/-- The row is next in order: the first that waits in the batch or, if none does, the first of
the batch that a fetch brings.  The later cursor has it in hand, and has not passed it. -/
inductive ReachesRow (cursor : ResultCursor) (columns : Columns) (session : σ) (row : PacketRow) :
    ResultCursor → σ → Prop
  | waiting {further : List PacketRow} (waits : cursor.waiting = row :: further) :
      ReachesRow cursor columns session row cursor session
  | fetched {batch : Array PacketRow} {further : List PacketRow} {after : σ}
      (used : cursor.waiting = [])
      (fetched : cursor.fetchBatch columns session = .ok batch after)
      (begins : batch.toList = row :: further) :
      ReachesRow cursor columns session row
        (cursor.withBatch batch (RowSession.lastRowSent after)) after

theorem ReachesRow.mem {row : PacketRow}
    (reaches : cursor.ReachesRow columns session row later after) :
    row ∈ later.batch.getD #[] := by
  rw [Array.mem_def]
  cases reaches with
  | waiting waits =>
      have first : row ∈ cursor.waiting := by
        rw [waits]
        exact List.mem_cons_self
      exact List.mem_of_mem_drop first
  | fetched used fetched begins =>
      rw [withBatch, Option.getD_some, begins]
      exact List.mem_cons_self

/-- The row that a question tells of is the next in order; what it answers to the metadata is
what the move answers. -/
theorem exists_reached_of_asked (regular : cursor.Regular) (opened : cursor.columns = some columns)
    (asked : hasNext (cursor, session) = .ok true (later, after)) :
    ∃ row, cursor.ReachesRow columns session row later after ∧
      later.batchRow later.batchTaken = row.setColumns columns := by
  have known := hasNextKnown?_of_hasNext regular opened asked
  obtain ⟨_, batch, present, room⟩ := of_hasNextKnown?_eq_true known
  have here : batch[later.batchTaken]? = some batch[later.batchTaken] :=
    Array.getElem?_eq_getElem room
  have waits := waiting_advance present here
  have reading : later.columns = some columns := (columns_of_hasNext asked).trans opened
  refine ⟨batch[later.batchTaken], ?_, batchRow_of_present reading present here⟩
  have outcome := hasNext_outcome regular opened session
  rw [asked] at outcome
  generalize true = answer at outcome
  cases outcome with
  | known _ known => exact .waiting waits
  | fetched arrived _ needed fetched => exact .fetched (waiting_eq_nil needed) fetched waits

/-- If a move to the next row fails, its fetch failed and the cursor is as it was, or the row
next in order refused the metadata, which it did not carry.  That row and no other is then
passed. -/
theorem failed_next_stays_or_is_refused (reached : cursor.Reachable)
    (opened : cursor.columns = some columns)
    (failed : next (cursor, session) = .error error (later, after)) :
    (∃ source, FetchFails cursor.fetchCommand columns session source after ∧
        error = .fetchFailed cursor.statementId source ∧ later = cursor) ∨
      ∃ told row, cursor.ReachesRow columns session row told after ∧
        ¬row.Carries columns ∧ row.setColumns columns = .error error ∧
        told.batchRow told.batchTaken = .error error ∧ later = told.advance := by
  have regular := reached.regular opened
  have outcome := next_outcome regular opened session
  rw [failed] at outcome
  cases outcome with
  | failed source _ needed broken =>
      left
      exact ⟨source, fetchBatch_eq_error_iff.mp broken, rfl, rfl⟩
  | refused told _ _ asked found =>
      right
      obtain ⟨row, reaches, same⟩ := exists_reached_of_asked regular opened asked
      have refused : row.setColumns columns = .error error := same.symm.trans found
      refine ⟨told, row, reaches, ?_, refused, found, rfl⟩
      intro carries
      rw [PacketRow.setColumns_of_carries carries] at refused
      cases refused

end

/-- The first batch breaks off behind its only row. -/
theorem first_batch_breaks_off_in_place :
    let server : ScriptedServer :=
      { replies := [.deliver [[0x00, 0x00, 5]] none (some .invalidPacket)] }
    let cursor := create 7 #[.ofType .tiny] {}
    let failed := next.after (cursor, server)
    cursor.Reachable ∧ next.answer (cursor, server) = .error (.fetchFailed 7 .invalidPacket) ∧
      failed.1 = cursor ∧
        ∃ source, FetchFails cursor.fetchCommand #[.ofType .tiny] server source failed.2 := by
  intro server cursor failed
  have reached : cursor.Reachable := .created 7 #[.ofType .tiny] {}
  have answered : next.answer (cursor, server) = .error (.fetchFailed 7 .invalidPacket) := by
    decide +kernel
  have moved : next (cursor, server) = .error (.fetchFailed 7 .invalidPacket) failed :=
    Step.eq_error_of_answer answered
  clear_value failed
  obtain ⟨later, after⟩ := failed
  refine ⟨reached, answered, ?_⟩
  rcases failed_next_stays_or_is_refused reached rfl moved with ⟨source, fails, _, same⟩ |
    ⟨told, row, reaches, _⟩
  · exact ⟨same, source, fails⟩
  · -- No row is reached: none waits, and the batch breaks off.
    cases reaches with
    | waiting waits => cases waits
    | fetched _ fetched _ =>
        have broken : (cursor.fetchBatch #[.ofType .tiny]).answer server =
            .error .invalidPacket := by decide +kernel
        rw [Step.answer, fetched] at broken
        cases broken

/-- A row with two columns is given to a cursor with one: it is counted, and never handed
out.  And the row of a batch that breaks off is never handed out, although it is not
counted. -/
theorem refused_row_is_passed :
    let columns : Columns := #[.ofType .tiny]
    let cursor := create 7 columns {}
    let wide := PacketRow.binaryRow [0x00, 0x00, 1, 2] #[.ofType .tiny, .ofType .tiny]
    let narrow := PacketRow.binaryRow [0x00, 0x00, 5] columns
    let given : ResultCursor × GivenRows := (cursor, { rows := [wide, narrow] })
    let broken : ResultCursor × ScriptedServer := (cursor, { replies := [
      .deliver [[0x00, 0x00, 5]] none (some .invalidPacket),
      .deliver [[0x00, 0x00, 6]] (some true) none] })
    cursor.Reachable ∧
      (next.answer given = .error (.badUsage (.metadataMismatch 2 1)) ∧
        cursor.taken = 0 ∧ (next.after given).1.taken = 1 ∧
        cursor.isBeforeFirst = true ∧ (next.after given).1.isBeforeFirst = false ∧
        next.answer (next.after given) = .ok (some narrow)) ∧
      next.answer broken = .error (.fetchFailed 7 .invalidPacket) ∧
        (next.after broken).1 = cursor ∧
        next.answer (next.after broken) =
          .ok (some (PacketRow.binaryRow [0x00, 0x00, 6] columns)) := by
  intro columns cursor wide narrow given broken
  refine ⟨.created 7 columns {}, ?_⟩
  decide +kernel

end ResultCursor

end RowCursor
