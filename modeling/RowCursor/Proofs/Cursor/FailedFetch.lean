import RowCursor.Proofs.Cursor.Lifetime
import RowCursor.Session.ScriptedServer

/-!
# Failed fetches

A fetch fails because its command is not sent, or because its batch breaks off after any
number of rows (`FetchFails`).  A cursor takes over nothing of such a fetch: all that is
left behind of the call is what the session went through.
-/

set_option autoImplicit false

namespace RowCursor

/-! ## How a fetch fails -/

section

variable {σ : Type} [RowSession σ]

/-- These rows are received, and then the batch breaks off. -/
inductive BreaksOff (columns : Columns) : List PacketRow → σ → Error → σ → Prop
  | here {before after : σ} {error : Error}
      (failed : RowSession.nextRow columns .binary before = .error error after) :
      BreaksOff columns [] before error after
  | behind {before between after : σ} {row : PacketRow} {rows : List PacketRow} {error : Error}
      (received : RowSession.nextRow columns .binary before = .ok (some row) between)
      (breaks : BreaksOff columns rows between error after) :
      BreaksOff columns (row :: rows) before error after

/-- The command is not sent, or the batch that answers it breaks off. -/
inductive FetchFails (command : Bytes) (columns : Columns) (before : σ) (error : Error)
    (after : σ) : Prop
  | unsent (failed : RowSession.sendCommand command before = .error error after)
  | brokenOff {between : σ} (rows : List PacketRow)
      (sent : RowSession.sendCommand command before = .ok () between)
      (breaks : BreaksOff columns rows between error after)

variable {columns : Columns} {before after : σ} {error : Error}

theorem BreaksOff.readBatch_eq {rows : List PacketRow}
    (breaks : BreaksOff columns rows before error after) (known : Array PacketRow) :
    RowSession.readBatch columns known before = .error error after := by
  induction breaks generalizing known with
  | here failed => exact readBatch_of_error failed
  | behind received breaks ih =>
      rw [readBatch_of_row received]
      exact ih _

theorem exists_breaksOff {known : Array PacketRow}
    (read : RowSession.readBatch columns known before = .error error after) :
    ∃ rows, BreaksOff columns rows before error after := by
  fun_induction RowSession.readBatch columns known before with
  | case1 known before row between received ih =>
      obtain ⟨rows, breaks⟩ := ih read
      exact ⟨row :: rows, .behind received breaks⟩
  | case2 => cases read
  | case3 known before failure between received =>
      cases read
      exact ⟨[], .here received⟩

theorem fetchBatch_eq_error_iff {cursor : ResultCursor} :
    cursor.fetchBatch columns before = .error error after ↔
      FetchFails cursor.fetchCommand columns before error after := by
  rw [ResultCursor.fetchBatch_eq]
  constructor
  · intro failed
    split at failed
    · rename_i between sent
      obtain ⟨rows, breaks⟩ := exists_breaksOff failed
      exact .brokenOff rows sent breaks
    · rename_i failure _ unsent
      cases failed
      exact .unsent unsent
  · intro fails
    cases fails with
    | unsent failed => rw [failed]
    | brokenOff rows sent breaks =>
        rw [sent]
        exact breaks.readBatch_eq #[]

end

/-! ## The states of a cursor -/

namespace ResultCursor

/-- The states of a cursor that is created and then called, over any sessions. -/
inductive Reachable : ResultCursor → Prop
  | created (statementId : UInt32) (columns : Columns) (options : CursorOptions) :
      Reachable (create statementId columns options)
  | asked {σ : Type} [RowSession σ] {cursor : ResultCursor} (session : σ)
      (reached : Reachable cursor) : Reachable (hasNext.after (cursor, session)).1
  | moved {σ : Type} [RowSession σ] {cursor : ResultCursor} (session : σ)
      (reached : Reachable cursor) : Reachable (next.after (cursor, session)).1
  | closed {cursor : ResultCursor} (reached : Reachable cursor) : Reachable cursor.close

theorem Reachable.regular {cursor : ResultCursor} {columns : Columns}
    (reached : cursor.Reachable) (opened : cursor.columns = some columns) : cursor.Regular := by
  induction reached with
  | created statementId columns options => exact regular_create statementId columns options
  | asked session _ ih =>
      have before := (continues_hasNext _ session).columns_eq columns opened
      exact (ih before).hasNext before session
  | moved session _ ih =>
      have before := (continues_next _ session).columns_eq columns opened
      exact (ih before).next before session
  | closed _ _ => cases opened

theorem Reachable.of_hasNext {σ : Type} [RowSession σ] {cursor later : ResultCursor}
    {session after : σ} {more : Bool} (reached : cursor.Reachable)
    (asked : hasNext (cursor, session) = .ok more (later, after)) : later.Reachable := by
  have behind := Reachable.asked session reached
  rw [Step.after, asked] at behind
  exact behind

end ResultCursor

namespace Progress

variable {σ : Type} [RowSession σ]

/-- Whatever its owner does, a cursor is in one of these states. -/
theorem reachable_lifetime (statementId : UInt32) (columns : Columns) (options : CursorOptions)
    (session : σ) (calls : List OwnerCall) :
    ∀ moment ∈ (start statementId columns options session).lifetime calls,
      moment.cursor.Reachable := by
  refine forall_mem_lifetime (.created statementId columns options) ?_ ?_ calls
  · intro before after moves reached
    cases moves with
    | stays => exact reached
    | hasNext => exact .asked before.session reached
    | next =>
        have moved : before.next.cursor = _ := congrArg Prod.fst before.next_state
        rw [moved]
        exact .moved before.session reached
  · intro before reached
    exact .closed reached

end Progress

/-! ## What a failed fetch leaves behind -/

namespace ResultCursor

variable {σ : Type} [RowSession σ] {cursor : ResultCursor} {columns : Columns}
  {before after : σ} {error : Error}

theorem hasNext_of_fetchFails (regular : cursor.Regular) (opened : cursor.columns = some columns)
    (needed : cursor.hasNextKnown? = none)
    (fails : FetchFails cursor.fetchCommand columns before error after) :
    hasNext (cursor, before) =
      .error (.fetchFailed cursor.statementId error) (cursor, after) := by
  have more := regular.lastRowFetched_eq_false needed
  exact hasNext_of_failed needed
    (fetchMore_of_failed more opened (fetchBatch_eq_error_iff.mpr fails))

theorem next_of_fetchFails (regular : cursor.Regular) (opened : cursor.columns = some columns)
    (needed : cursor.hasNextKnown? = none)
    (fails : FetchFails cursor.fetchCommand columns before error after) :
    next (cursor, before) = .error (.fetchFailed cursor.statementId error) (cursor, after) :=
  next_of_failed opened (hasNext_of_fetchFails regular opened needed fails)

/-- A fetch that fails, at whatever point, fails the call with its error and this statement.
The cursor is left as it was, and what its owner does later comes out as if it had been over
the session behind the failed fetch from the start. -/
theorem failed_fetch_leaves_cursor (reached : cursor.Reachable)
    (opened : cursor.columns = some columns) (needed : cursor.hasNextKnown? = none)
    (fails : FetchFails cursor.fetchCommand columns before error after) :
    hasNext (cursor, before) = .error (.fetchFailed cursor.statementId error) (cursor, after) ∧
      next (cursor, before) = .error (.fetchFailed cursor.statementId error) (cursor, after) ∧
      ∀ (handed : List PacketRow) (ended : Bool) (calls : List OwnerCall),
        let failed : Progress σ := { cursor, session := before, handed, ended }
        let untouched : Progress σ := { cursor, session := after, handed, ended }
        failed.hasNext.lifetime calls = untouched.lifetime calls ∧
          failed.next.lifetime calls = untouched.lifetime calls := by
  have regular := reached.regular opened
  have asked := hasNext_of_fetchFails regular opened needed fails
  have moved := next_of_fetchFails regular opened needed fails
  refine ⟨asked, moved, ?_⟩
  intro handed ended calls failed untouched
  have behindHasNext : failed.hasNext = untouched := Progress.hasNext_of_error asked
  have behindNext : failed.next = untouched := by
    simp only [Progress.next, failed, untouched, moved]
  rw [behindHasNext, behindNext]
  exact ⟨rfl, rfl⟩

/-- The second batch breaks off behind its first row. -/
theorem second_batch_breaks_off :
    let row : Bytes := [0x00, 0x00]
    let first : ScriptedServer := { replies := [.deliver [row] none none] }
    let second : ScriptedServer := { replies := [.deliver [row] none (some .invalidPacket)] }
    let cursor := (next.after (create 7 #[] {}, first)).1
    cursor.Reachable ∧ cursor.taken = 1 ∧ cursor.hasNextKnown? = none ∧
      next.answer (cursor, second) = .error (.fetchFailed 7 .invalidPacket) ∧
      (next.after (cursor, second)).1 = cursor := by
  intro row first second cursor
  have reached : cursor.Reachable := .moved first (.created 7 #[] {})
  have taken : cursor.taken = 1 := by decide +kernel
  have opened : cursor.columns = some #[] := by decide +kernel
  have needed : cursor.hasNextKnown? = none := by decide +kernel
  have statement : cursor.statementId = 7 := by decide +kernel
  obtain ⟨after, fails⟩ :
      ∃ after, FetchFails cursor.fetchCommand #[] second .invalidPacket after :=
    ⟨_, .brokenOff [PacketRow.binaryRow row #[]] rfl (.behind rfl (.here rfl))⟩
  obtain ⟨_, moved, _⟩ := failed_fetch_leaves_cursor reached opened needed fails
  rw [statement] at moved
  refine ⟨reached, taken, needed, ?_, ?_⟩
  · rw [Step.answer, moved]
  · rw [Step.after, moved]

end ResultCursor

end RowCursor
