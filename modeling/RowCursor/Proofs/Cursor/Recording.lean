import RowCursor.Proofs.Cursor.Simulation
import RowCursor.Proofs.Session.Metadata

/-!
# Recorded sessions

A recorded session is any session with a record of what passed through it: every
command that was sent, whether or not it failed, and the rows of every batch that was
read to its end.  The record is invisible: whatever a cursor does over the recorded
session, it does over the session itself (`ResultCursor.indistinct_withoutRecord`).
-/

set_option autoImplicit false

namespace RowCursor

structure Recorded (σ : Type) where
  session : σ
  /-- The commands that were sent, failed ones included, oldest first. -/
  commands : List Bytes := []
  /-- The batches that were read to their ends, oldest first. -/
  batches : List (List PacketRow) := []
  /-- The rows of the batch that is being read. -/
  arriving : List PacketRow := []

namespace Recorded

variable {σ : Type} [RowSession σ]

def sendCommand (command : Bytes) : Step (Recorded σ) Unit := fun recorded =>
  let noted := { recorded with commands := recorded.commands ++ [command], arriving := [] }
  match RowSession.sendCommand command recorded.session with
  | .ok () session => .ok () { noted with session }
  | .error error session => .error error { noted with session }

def nextRow (columns : Columns) (encoding : RowEncoding) :
    Step (Recorded σ) (Option PacketRow) := fun recorded =>
  match RowSession.nextRow columns encoding recorded.session with
  | .ok (some row) session =>
    .ok (some row) { recorded with session, arriving := recorded.arriving ++ [row] }
  | .ok none session =>
    .ok none { recorded with
      session, batches := recorded.batches ++ [recorded.arriving], arriving := [] }
  | .error error session => .error error { recorded with session }

theorem nextRow_eq_some {columns : Columns} {encoding : RowEncoding} {row : PacketRow}
    {before after : Recorded σ} (received : nextRow columns encoding before = .ok (some row) after) :
    RowSession.nextRow columns encoding before.session = .ok (some row) after.session ∧
      after.commands = before.commands ∧ after.batches = before.batches ∧
        after.arriving = before.arriving ++ [row] := by
  unfold nextRow at received
  split at received
  · rename_i delivered
    cases received
    exact ⟨delivered, rfl, rfl, rfl⟩
  · cases received
  · cases received

theorem nextRow_eq_none {columns : Columns} {encoding : RowEncoding}
    {before after : Recorded σ} (received : nextRow columns encoding before = .ok none after) :
    after.commands = before.commands ∧ after.batches = before.batches ++ [before.arriving] := by
  unfold nextRow at received
  split at received
  · cases received
  · cases received
    exact ⟨rfl, rfl⟩
  · cases received

theorem nextRow_eq_error {columns : Columns} {encoding : RowEncoding} {error : Error}
    {before after : Recorded σ} (received : nextRow columns encoding before = .error error after) :
    after.commands = before.commands ∧ after.batches = before.batches := by
  unfold nextRow at received
  split at received
  · cases received
  · cases received
  · cases received
    exact ⟨rfl, rfl⟩

def ofSession (session : σ) : Recorded σ := { session }

instance : RowSession (Recorded σ) where
  sendCommand := sendCommand
  nextRow := nextRow
  lastRowSent recorded := RowSession.lastRowSent recorded.session
  batchBound recorded := RowSession.batchBound recorded.session
  batchBound_lt received := RowSession.batchBound_lt (nextRow_eq_some received).1

theorem sendCommand_record (command : Bytes) (before : Recorded σ) :
    let after := (RowSession.sendCommand command : Step (Recorded σ) Unit).after before
    after.commands = before.commands ++ [command] ∧ after.batches = before.batches ∧
      after.arriving = [] := by
  simp only [RowSession.sendCommand, sendCommand, Step.after]
  cases RowSession.sendCommand command before.session <;> exact ⟨rfl, rfl, rfl⟩

end Recorded

theorem RowsCarry.recorded {σ : Type} [RowSession σ] (carry : RowsCarry σ) :
    RowsCarry (Recorded σ) := by
  intro columns encoding row before after received
  exact carry columns encoding row _ _ (Recorded.nextRow_eq_some received).1

/-! ## What a fetch records -/

section

variable {σ : Type} [RowSession σ]

theorem readBatch_record {columns : Columns} {rows batch : Array PacketRow}
    {before after : Recorded σ} (same : before.arriving = rows.toList)
    (read : RowSession.readBatch columns rows before = .ok batch after) :
    after.commands = before.commands ∧ after.batches = before.batches ++ [batch.toList] := by
  fun_induction RowSession.readBatch columns rows before with
  | case1 rows before row between received ih =>
      obtain ⟨_, commands, batches, arriving⟩ := Recorded.nextRow_eq_some received
      rw [← commands, ← batches]
      -- The rows read so far are still those that are arriving.
      refine ih ?_ read
      rw [arriving, same, Array.toList_push]
  | case2 rows before between received =>
      obtain ⟨commands, batches⟩ := Recorded.nextRow_eq_none received
      cases read
      exact ⟨commands, by rw [batches, same]⟩
  | case3 => cases read

theorem readBatch_record_of_error {columns : Columns} {rows : Array PacketRow} {error : Error}
    {before after : Recorded σ}
    (read : RowSession.readBatch columns rows before = .error error after) :
    after.commands = before.commands ∧ after.batches = before.batches := by
  fun_induction RowSession.readBatch columns rows before with
  | case1 rows before row between received ih =>
      obtain ⟨_, commands, batches, _⟩ := Recorded.nextRow_eq_some received
      rw [← commands, ← batches]
      exact ih read
  | case2 => cases read
  | case3 rows before failure between received =>
      cases read
      exact Recorded.nextRow_eq_error received

namespace ResultCursor

theorem fetchBatch_record {cursor : ResultCursor} {columns : Columns}
    {batch : Array PacketRow} {before after : Recorded σ}
    (fetched : cursor.fetchBatch columns before = .ok batch after) :
    after.commands = before.commands ++ [cursor.fetchCommand] ∧
      after.batches = before.batches ++ [batch.toList] := by
  have noted := Recorded.sendCommand_record cursor.fetchCommand before
  rw [fetchBatch_eq] at fetched
  split at fetched
  · rename_i between sent
    simp only [Step.after, sent] at noted
    obtain ⟨commands, batches, arriving⟩ := noted
    rw [← commands, ← batches]
    exact readBatch_record arriving fetched
  · cases fetched

theorem fetchBatch_record_of_error {cursor : ResultCursor} {columns : Columns} {error : Error}
    {before after : Recorded σ}
    (failed : cursor.fetchBatch columns before = .error error after) :
    after.commands = before.commands ++ [cursor.fetchCommand] ∧
      after.batches = before.batches := by
  have noted := Recorded.sendCommand_record cursor.fetchCommand before
  rw [fetchBatch_eq] at failed
  split at failed
  · rename_i between sent
    simp only [Step.after, sent] at noted
    obtain ⟨commands, batches, _⟩ := noted
    rw [← commands, ← batches]
    exact readBatch_record_of_error failed
  · rename_i sent
    simp only [Step.after, sent] at noted
    cases failed
    exact ⟨noted.1, noted.2.1⟩

/-- A question that needs a fetch sends its command and no other. -/
theorem commands_hasNext {cursor : ResultCursor} {columns : Columns} (regular : cursor.Regular)
    (opened : cursor.columns = some columns) (needed : cursor.hasNextKnown? = none)
    (recorded : Recorded σ) :
    (hasNext.after (cursor, recorded)).2.commands =
      recorded.commands ++ [cursor.fetchCommand] := by
  have outcome := hasNext_outcome regular opened recorded
  unfold Step.after
  generalize hasNext (cursor, recorded) = result at outcome ⊢
  cases outcome with
  | known answer known =>
      rw [needed] at known
      cases known
  | fetched batch after _ fetched => exact (fetchBatch_record fetched).1
  | failed error after _ failed => exact (fetchBatch_record_of_error failed).1

end ResultCursor

/-! ## The record is invisible -/

theorem withoutRecord_sendCommand (command : Bytes) (recorded : Recorded σ) :
    Step.mapState Recorded.session (RowSession.sendCommand command recorded) =
      RowSession.sendCommand command recorded.session := by
  simp only [RowSession.sendCommand, Recorded.sendCommand]
  cases RowSession.sendCommand command recorded.session <;> rfl

theorem withoutRecord_nextRow (columns : Columns) (encoding : RowEncoding)
    (recorded : Recorded σ) :
    Step.mapState Recorded.session (RowSession.nextRow columns encoding recorded) =
      RowSession.nextRow columns encoding recorded.session := by
  simp only [RowSession.nextRow, Recorded.nextRow]
  cases RowSession.nextRow columns encoding recorded.session with
  | error error after => rfl
  | ok row after => cases row <;> rfl

theorem withoutRecord_readBatch (columns : Columns) (rows : Array PacketRow)
    (recorded : Recorded σ) :
    Step.mapState Recorded.session (RowSession.readBatch columns rows recorded) =
      RowSession.readBatch columns rows recorded.session := by
  fun_induction RowSession.readBatch columns rows recorded with
  | case1 rows before row between received ih =>
      have plain := withoutRecord_nextRow columns .binary before
      rw [received] at plain
      rw [readBatch_of_row plain.symm]
      exact ih
  | case2 rows before between received =>
      have plain := withoutRecord_nextRow columns .binary before
      rw [received] at plain
      rw [readBatch_of_end plain.symm]
      rfl
  | case3 rows before failure between received =>
      have plain := withoutRecord_nextRow columns .binary before
      rw [received] at plain
      rw [readBatch_of_error plain.symm]
      rfl

namespace ResultCursor

theorem withoutRecord_fetchBatch (cursor : ResultCursor) (columns : Columns)
    (recorded : Recorded σ) :
    Step.mapState Recorded.session (cursor.fetchBatch columns recorded) =
      cursor.fetchBatch columns recorded.session := by
  have plain := withoutRecord_sendCommand cursor.fetchCommand recorded
  rw [fetchBatch_eq, fetchBatch_eq, ← plain]
  cases RowSession.sendCommand cursor.fetchCommand recorded with
  | error error after => rfl
  | ok sent after => exact withoutRecord_readBatch columns #[] after

theorem indistinct_withoutRecord :
    Indistinct fun (recorded : Recorded σ) (session : σ) => recorded.session = session := by
  rintro cursor recorded _ rfl columns _
  rw [← withoutRecord_fetchBatch]
  refine (Step.Alike.of_mapState _).imp ?_
  intro before after same
  exact ⟨same, congrArg RowSession.lastRowSent same⟩

/-- The cursor with the session alone. -/
def withoutRecord (state : ResultCursor × Recorded σ) : ResultCursor × σ :=
  (state.1, state.2.session)

omit [RowSession σ] in
theorem withoutRecord_of_sameCursor {before : ResultCursor × Recorded σ}
    {after : ResultCursor × σ}
    (same : SameCursor (fun recorded session => recorded.session = session) before after) :
    withoutRecord before = after := Prod.ext same.1 same.2

theorem withoutRecord_next (state : ResultCursor × Recorded σ) :
    Step.mapState withoutRecord (next state) = next (withoutRecord state) := by
  have same : SameCursor (fun recorded session => recorded.session = session) state
    (withoutRecord state) := ⟨rfl, rfl⟩
  have alike := indistinct_withoutRecord.next same
  exact (alike.imp fun _ _ => withoutRecord_of_sameCursor).mapState_eq

end ResultCursor

end

end RowCursor
