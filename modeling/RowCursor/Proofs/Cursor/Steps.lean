import RowCursor.ResultCursor.ForEach
import RowCursor.Proofs.Step

/-!
# The steps of a cursor

What a cursor can do in one step, over any session.  `Regular` holds of every open
cursor; on a regular cursor `hasNext` ends in one of three ways (`HasNextOutcome`) and
`next` in one of four (`NextOutcome`).  Later proofs take these cases and do not unfold
the steps.
-/

set_option autoImplicit false

namespace RowCursor

section

variable {σ : Type} [RowSession σ]

/-! ## Reading a batch -/

theorem readBatch_of_row {columns : Columns} {rows : Array PacketRow} {row : PacketRow}
    {before after : σ}
    (received : RowSession.nextRow columns .binary before = .ok (some row) after) :
    RowSession.readBatch columns rows before =
      RowSession.readBatch columns (rows.push row) after := by
  rw [RowSession.readBatch]
  split <;> simp_all

theorem readBatch_of_end {columns : Columns} {rows : Array PacketRow} {before after : σ}
    (received : RowSession.nextRow columns .binary before = .ok none after) :
    RowSession.readBatch columns rows before = .ok rows after := by
  rw [RowSession.readBatch]
  split <;> simp_all

theorem readBatch_of_error {columns : Columns} {rows : Array PacketRow} {error : Error}
    {before after : σ}
    (received : RowSession.nextRow columns .binary before = .error error after) :
    RowSession.readBatch columns rows before = .error error after := by
  rw [RowSession.readBatch]
  split <;> simp_all

namespace ResultCursor

variable {cursor : ResultCursor} {columns : Columns} {session : σ}

def fetchCommand (cursor : ResultCursor) : Bytes :=
  (Command.fetch cursor.statementId cursor.rowsToRequest).encode

theorem fetchBatch_eq (cursor : ResultCursor) (columns : Columns) (session : σ) :
    cursor.fetchBatch columns session =
      match RowSession.sendCommand cursor.fetchCommand session with
      | .ok () between => RowSession.readBatch columns #[] between
      | .error error after => .error error after := by
  simp only [fetchBatch, fetchCommand, bind, EStateM.bind]
  cases RowSession.sendCommand
    (Command.fetch cursor.statementId cursor.rowsToRequest).encode session <;> rfl

theorem fetchMore_of_fetched {batch : Array PacketRow} {after : σ}
    (more : cursor.lastRowFetched = false) (opened : cursor.columns = some columns)
    (fetched : cursor.fetchBatch columns session = .ok batch after) :
    cursor.fetchMore session =
      .ok (cursor.withBatch batch (RowSession.lastRowSent after)) after := by
  unfold fetchMore
  simp only [more, opened, fetched]
  rfl

theorem fetchMore_of_failed {error : Error} {after : σ}
    (more : cursor.lastRowFetched = false) (opened : cursor.columns = some columns)
    (failed : cursor.fetchBatch columns session = .error error after) :
    cursor.fetchMore session = .error (.fetchFailed cursor.statementId error) after := by
  unfold fetchMore
  simp only [more, opened, failed]
  rfl

/-! ## Asking for a row -/

theorem hasNext_of_known {answer : Bool} (known : cursor.hasNextKnown? = some answer) :
    hasNext (cursor, session) = .ok answer (cursor, session) := by
  simp only [hasNext, known]

theorem hasNext_of_fetched {fresh : ResultCursor} {after : σ}
    (needed : cursor.hasNextKnown? = none)
    (fetched : cursor.fetchMore session = .ok fresh after) :
    hasNext (cursor, session) = .ok fresh.hasRows (fresh, after) := by
  simp only [hasNext, needed, fetched]

theorem hasNext_of_failed {error : Error} {after : σ} (needed : cursor.hasNextKnown? = none)
    (failed : cursor.fetchMore session = .error error after) :
    hasNext (cursor, session) = .error error (cursor, after) := by
  simp only [hasNext, needed, failed]

theorem isClosed_eq_false (opened : cursor.columns = some columns) : cursor.isClosed = false := by
  rw [isClosed, opened]
  rfl

theorem hasNextKnown?_of_closed (closed : cursor.isClosed = true) :
    cursor.hasNextKnown? = some false := by
  simp only [hasNextKnown?, closed, Bool.true_or, if_true]

theorem exists_columns (opened : cursor.isClosed = false) :
    ∃ columns, cursor.columns = some columns := by
  rw [isClosed, Option.isNone_eq_false_iff] at opened
  exact Option.isSome_iff_exists.mp opened

/-- A fetch is needed only when no row of the batch is left and none of the ends was
reached. -/
theorem of_hasNextKnown?_eq_none (needed : cursor.hasNextKnown? = none) :
    cursor.maxRowsReached = false ∧
      (cursor.batch = none ∨ ∃ batch, cursor.batch = some batch ∧ batch.isEmpty = false ∧
        batch.size ≤ cursor.batchTaken ∧ cursor.lastRowFetched = false) := by
  unfold hasNextKnown? at needed
  split at needed
  · cases needed
  · rename_i going
    have unlimited : cursor.maxRowsReached = false := by
      cases limit : cursor.maxRowsReached with
      | false => rfl
      | true => simp [limit] at going
    refine ⟨unlimited, ?_⟩
    split at needed
    · rename_i nothing
      exact Or.inl nothing
    · rename_i batch present
      split at needed
      · cases needed
      · rename_i nonempty
        split at needed
        · cases needed
        · rename_i used
          split at needed
          · cases needed
          · rename_i open_
            refine Or.inr ⟨batch, present, ?_, Nat.le_of_not_lt used, ?_⟩
            · exact Bool.eq_false_iff.mpr nonempty
            · exact Bool.eq_false_iff.mpr open_

theorem of_hasNextKnown?_eq_true (known : cursor.hasNextKnown? = some true) :
    cursor.maxRowsReached = false ∧
      ∃ batch, cursor.batch = some batch ∧ cursor.batchTaken < batch.size := by
  have room := batchTaken_lt_of_known known
  unfold hasNextKnown? at known
  split at known
  · cases known
  · rename_i going
    have unlimited : cursor.maxRowsReached = false := by
      cases limit : cursor.maxRowsReached with
      | false => rfl
      | true => simp [limit] at going
    refine ⟨unlimited, ?_⟩
    cases present : cursor.batch with
    | none => simp [present] at known
    | some batch =>
        rw [present] at room
        exact ⟨batch, rfl, room⟩

/-- No row is left once the limit is reached, or once the batch is used up and either it
came empty or the last row was fetched. -/
theorem of_hasNextKnown?_eq_false (opened : cursor.columns = some columns)
    (known : cursor.hasNextKnown? = some false) :
    cursor.maxRowsReached = true ∨ ∃ batch, cursor.batch = some batch ∧
      batch.size ≤ cursor.batchTaken ∧ (batch = #[] ∨ cursor.lastRowFetched = true) := by
  have reading := isClosed_eq_false opened
  unfold hasNextKnown? at known
  cases limit : cursor.maxRowsReached with
  | true => exact Or.inl rfl
  | false =>
      right
      simp only [reading, limit, Bool.or_self, Bool.false_eq_true, if_false] at known
      split at known
      · cases known
      · rename_i batch present
        refine ⟨batch, present, ?_⟩
        split at known
        · rename_i empty
          have none := Array.isEmpty_iff.mp empty
          exact ⟨by simp [none], Or.inl none⟩
        · split at known
          · cases known
          · rename_i used
            split at known
            · rename_i last
              exact ⟨Nat.le_of_not_lt used, Or.inr last⟩
            · cases known

/-! ## The rows in hand -/

/-- The rows of the batch that were not passed yet. -/
def waiting (cursor : ResultCursor) : List PacketRow :=
  (cursor.batch.getD #[]).toList.drop cursor.batchTaken

theorem waiting_eq_nil (needed : cursor.hasNextKnown? = none) : cursor.waiting = [] := by
  rw [waiting, List.drop_eq_nil_iff]
  obtain ⟨_, nothing | ⟨batch, present, _, passed, _⟩⟩ := of_hasNextKnown?_eq_none needed
  · rw [nothing]
    exact Nat.zero_le _
  · rw [present]
    exact passed

theorem waiting_advance {batch : Array PacketRow} {row : PacketRow}
    (present : cursor.batch = some batch)
    (next : batch[cursor.batchTaken]? = some row) :
    cursor.waiting = row :: cursor.advance.waiting := by
  obtain ⟨room, rfl⟩ := Array.getElem?_eq_some_iff.mp next
  simp only [waiting, ResultCursor.advance, present, Option.getD_some]
  exact List.drop_eq_getElem_cons room

/-- A row of the batch stands for what it answers to the metadata. -/
theorem batchRow_of_present {batch : Array PacketRow} {row : PacketRow} {index : Nat}
    (opened : cursor.columns = some columns) (present : cursor.batch = some batch)
    (here : batch[index]? = some row) : cursor.batchRow index = row.setColumns columns := by
  simp only [batchRow, opened, present, Option.bind_some, here]

/-! ## What an open cursor keeps -/

/-- How the fields of an open cursor go together. -/
structure Regular (cursor : ResultCursor) : Prop where
  /-- Before the first fetch nothing was passed and no end was told. -/
  of_batch_eq_none : cursor.batch = none →
    cursor.lastRowFetched = false ∧ cursor.batchTaken = 0 ∧ cursor.taken = 0
  batchTaken_le : cursor.batchTaken ≤ (cursor.batch.getD #[]).size
  of_isEmpty : cursor.isEmpty = true → cursor.batch = some #[] ∧ cursor.taken = 0

theorem regular_create (statementId : UInt32) (columns : Columns) (options : CursorOptions) :
    (create statementId columns options).Regular := by
  refine ⟨fun _ => ⟨rfl, rfl, rfl⟩, Nat.le_refl 0, ?_⟩
  intro empty
  cases empty

theorem Regular.lastRowFetched_eq_false (regular : cursor.Regular)
    (needed : cursor.hasNextKnown? = none) : cursor.lastRowFetched = false := by
  obtain ⟨_, nothing | ⟨_, _, _, _, more⟩⟩ := of_hasNextKnown?_eq_none needed
  · exact (regular.of_batch_eq_none nothing).1
  · exact more

theorem Regular.isEmpty_eq_false (regular : cursor.Regular)
    (needed : cursor.hasNextKnown? = none) : cursor.isEmpty = false := by
  cases empty : cursor.isEmpty with
  | false => rfl
  | true =>
      have present := (regular.of_isEmpty empty).1
      obtain ⟨_, nothing | ⟨batch, other, nonempty, _⟩⟩ := of_hasNextKnown?_eq_none needed
      · rw [present] at nothing
        cases nothing
      · rw [present] at other
        cases other
        cases nonempty

theorem Regular.withBatch (regular : cursor.Regular) (needed : cursor.hasNextKnown? = none)
    (batch : Array PacketRow) (last : Bool) : (cursor.withBatch batch last).Regular := by
  refine ⟨?_, Nat.zero_le _, ?_⟩
  · intro nothing
    cases nothing
  · intro empty
    simp only [ResultCursor.withBatch] at empty ⊢
    -- Only a first batch can tell that the result is empty.
    cases last with
    | false =>
        have full := regular.isEmpty_eq_false needed
        simp [full] at empty
    | true =>
        simp only [if_true, Bool.and_eq_true, Option.isNone_iff_eq_none,
          Array.isEmpty_iff] at empty
        obtain ⟨first, none⟩ := empty
        exact ⟨by rw [none], (regular.of_batch_eq_none first).2.2⟩

theorem Regular.advance (regular : cursor.Regular) {batch : Array PacketRow}
    (present : cursor.batch = some batch) (room : cursor.batchTaken < batch.size) :
    cursor.advance.Regular := by
  refine ⟨?_, ?_, ?_⟩
  · intro nothing
    simp only [ResultCursor.advance, present] at nothing
    cases nothing
  · simp only [ResultCursor.advance, present, Option.getD_some]
    exact room
  · intro empty
    have none := (regular.of_isEmpty empty).1
    rw [present] at none
    cases none
    exact absurd room (Nat.not_lt_zero _)

theorem Regular.finish (regular : cursor.Regular) : cursor.finish.Regular :=
  ⟨regular.of_batch_eq_none, regular.batchTaken_le, regular.of_isEmpty⟩

/-! ## The outcomes of a step -/

/-- The ways in which `hasNext` ends on an open cursor. -/
inductive HasNextOutcome (cursor : ResultCursor) (columns : Columns) (session : σ) :
    EStateM.Result Error (ResultCursor × σ) Bool → Prop where
  /-- The answer is known, and nothing is sent. -/
  | known (answer : Bool) (known : cursor.hasNextKnown? = some answer) :
      HasNextOutcome cursor columns session (.ok answer (cursor, session))
  /-- The next batch arrives. -/
  | fetched (batch : Array PacketRow) (after : σ) (needed : cursor.hasNextKnown? = none)
      (fetched : cursor.fetchBatch columns session = .ok batch after) :
      HasNextOutcome cursor columns session
        (.ok (!batch.isEmpty) (cursor.withBatch batch (RowSession.lastRowSent after), after))
  /-- The fetch fails, and the cursor stays as it is. -/
  | failed (error : Error) (after : σ) (needed : cursor.hasNextKnown? = none)
      (failed : cursor.fetchBatch columns session = .error error after) :
      HasNextOutcome cursor columns session
        (.error (.fetchFailed cursor.statementId error) (cursor, after))

theorem hasNext_outcome (regular : cursor.Regular) (opened : cursor.columns = some columns)
    (session : σ) : HasNextOutcome cursor columns session (hasNext (cursor, session)) := by
  cases known : cursor.hasNextKnown? with
  | some answer =>
      rw [hasNext_of_known known]
      exact .known answer known
  | none =>
      have more := regular.lastRowFetched_eq_false known
      cases fetched : cursor.fetchBatch columns session with
      | ok batch after =>
          rw [hasNext_of_fetched known (fetchMore_of_fetched more opened fetched)]
          exact .fetched batch after known fetched
      | error error after =>
          rw [hasNext_of_failed known (fetchMore_of_failed more opened fetched)]
          exact .failed error after known fetched

theorem hasNextKnown?_withBatch (opened : cursor.columns = some columns)
    (unlimited : cursor.maxRowsReached = false) (batch : Array PacketRow) (last : Bool) :
    (cursor.withBatch batch last).hasNextKnown? = some (!batch.isEmpty) := by
  have running : (cursor.withBatch batch last).maxRowsReached = false := unlimited
  have reading : (cursor.withBatch batch last).isClosed = false := isClosed_eq_false opened
  simp only [hasNextKnown?, running, reading]
  cases empty : batch.isEmpty with
  | true => simp [withBatch, empty]
  | false =>
      have room : 0 < batch.size := Array.size_pos_iff.mpr (Array.isEmpty_eq_false_iff.mp empty)
      simp [withBatch, empty, room]

/-- Asked again, `hasNext` answers the same without a fetch. -/
theorem hasNextKnown?_of_hasNext {later : ResultCursor} {after : σ} {answer : Bool}
    (regular : cursor.Regular) (opened : cursor.columns = some columns)
    (asked : hasNext (cursor, session) = .ok answer (later, after)) :
    later.hasNextKnown? = some answer := by
  have outcome := hasNext_outcome regular opened session
  rw [asked] at outcome
  cases outcome with
  | known _ known => exact known
  | fetched batch _ needed fetched =>
      exact hasNextKnown?_withBatch opened (of_hasNextKnown?_eq_none needed).1 batch _

theorem eq_of_hasNext_error {later : ResultCursor} {after : σ} {error : Error}
    (asked : hasNext (cursor, session) = .error error (later, after)) : later = cursor := by
  simp only [hasNext] at asked
  split at asked
  · cases asked
  · split at asked
    · cases asked
    · cases asked
      rfl

/-- An answered question leaves the cursor as it is, or with a new batch. -/
theorem eq_or_eq_withBatch_of_hasNext {later : ResultCursor} {after : σ} {answer : Bool}
    (asked : hasNext (cursor, session) = .ok answer (later, after)) :
    later = cursor ∨ ∃ batch last, later = cursor.withBatch batch last := by
  simp only [hasNext, fetchMore] at asked
  split at asked
  · cases asked
    exact .inl rfl
  · rename_i needed
    cases last : cursor.lastRowFetched with
    | true =>
        rw [last] at asked
        cases asked
        exact .inl rfl
    | false =>
        cases opened : cursor.columns with
        | none => simp [last, opened] at asked
        | some columns =>
            simp only [last, opened, Bool.false_eq_true, if_false] at asked
            cases fetched : cursor.fetchBatch columns session with
            | error error between => simp [fetched] at asked
            | ok batch between =>
                simp only [fetched] at asked
                cases asked
                exact .inr ⟨batch, _, rfl⟩

theorem columns_of_hasNext {later : ResultCursor} {after : σ} {answer : Bool}
    (asked : hasNext (cursor, session) = .ok answer (later, after)) :
    later.columns = cursor.columns := by
  rcases eq_or_eq_withBatch_of_hasNext asked with rfl | ⟨batch, last, rfl⟩
  · rfl
  · rfl

theorem taken_of_hasNext {later : ResultCursor} {after : σ} {answer : Bool}
    (asked : hasNext (cursor, session) = .ok answer (later, after)) :
    later.taken = cursor.taken := by
  rcases eq_or_eq_withBatch_of_hasNext asked with rfl | ⟨batch, last, rfl⟩
  · rfl
  · rfl

theorem currentRowNumber_of_hasNext {later : ResultCursor} {after : σ} {answer : Bool}
    (asked : hasNext (cursor, session) = .ok answer (later, after)) :
    later.currentRowNumber = cursor.currentRowNumber := by
  rcases eq_or_eq_withBatch_of_hasNext asked with rfl | ⟨batch, last, rfl⟩
  · rfl
  · rfl

theorem next_of_failed {error : Error} {state : ResultCursor × σ}
    (opened : cursor.columns = some columns)
    (failed : hasNext (cursor, session) = .error error state) :
    next (cursor, session) = .error error state := by
  simp only [next, isClosed_eq_false opened, failed]
  rfl

theorem next_of_end {later : ResultCursor} {after : σ} (opened : cursor.columns = some columns)
    (ended : hasNext (cursor, session) = .ok false (later, after)) :
    next (cursor, session) = .ok none (later.finish, after) := by
  simp only [next, isClosed_eq_false opened, ended]
  rfl

theorem next_of_more {later : ResultCursor} {after : σ} (opened : cursor.columns = some columns)
    (more : hasNext (cursor, session) = .ok true (later, after)) :
    next (cursor, session) =
      match later.batchRow later.batchTaken with
      | .ok row => .ok (some row) (later.advance, after)
      | .error error => .error error (later.advance, after) := by
  simp only [next, isClosed_eq_false opened, more]
  rfl

/-- A move to the next row talks to the session only by asking. -/
theorem session_next (opened : cursor.columns = some columns) (session : σ) :
    (next.after (cursor, session)).2 = (hasNext.after (cursor, session)).2 := by
  unfold Step.after
  cases asked : hasNext (cursor, session) with
  | error error state => rw [next_of_failed opened asked]
  | ok more state =>
      obtain ⟨later, after⟩ := state
      cases more with
      | false => rw [next_of_end opened asked]
      | true =>
          rw [next_of_more opened asked]
          cases later.batchRow later.batchTaken <;> rfl

/-- The ways in which `next` ends on an open cursor. -/
inductive NextOutcome (cursor : ResultCursor) (columns : Columns) (session : σ) :
    EStateM.Result Error (ResultCursor × σ) (Option PacketRow) → Prop where
  /-- The fetch fails, and the cursor stays as it is. -/
  | failed (error : Error) (after : σ) (needed : cursor.hasNextKnown? = none)
      (failed : cursor.fetchBatch columns session = .error error after) :
      NextOutcome cursor columns session
        (.error (.fetchFailed cursor.statementId error) (cursor, after))
  /-- No row is left. -/
  | ended (later : ResultCursor) (after : σ)
      (asked : hasNext (cursor, session) = .ok false (later, after)) :
      NextOutcome cursor columns session (.ok none (later.finish, after))
  /-- The next row of the batch is handed out. -/
  | handed (later : ResultCursor) (after : σ) (row : PacketRow)
      (asked : hasNext (cursor, session) = .ok true (later, after))
      (found : later.batchRow later.batchTaken = .ok row) :
      NextOutcome cursor columns session (.ok (some row) (later.advance, after))
  /-- The next row of the batch does not take the metadata. -/
  | refused (later : ResultCursor) (after : σ) (error : Error)
      (asked : hasNext (cursor, session) = .ok true (later, after))
      (found : later.batchRow later.batchTaken = .error error) :
      NextOutcome cursor columns session (.error error (later.advance, after))

theorem next_outcome (regular : cursor.Regular) (opened : cursor.columns = some columns)
    (session : σ) : NextOutcome cursor columns session (next (cursor, session)) := by
  have outcome := hasNext_outcome regular opened session
  cases asked : hasNext (cursor, session) with
  | error error state =>
      rw [asked] at outcome
      rw [next_of_failed opened asked]
      cases outcome with
      | failed source after needed failed => exact .failed source after needed failed
  | ok more state =>
      obtain ⟨later, after⟩ := state
      cases more with
      | false =>
          rw [next_of_end opened asked]
          exact .ended later after asked
      | true =>
          rw [next_of_more opened asked]
          cases found : later.batchRow later.batchTaken with
          | ok row => exact .handed later after row asked found
          | error error => exact .refused later after error asked found

/-! ## What a step does to the cursor -/

/-- The statement is the same, and the metadata too unless they were released. -/
structure Continues (cursor later : ResultCursor) : Prop where
  statementId_eq : later.statementId = cursor.statementId
  columns_eq : ∀ columns, later.columns = some columns → cursor.columns = some columns

theorem Continues.refl (cursor : ResultCursor) : cursor.Continues cursor :=
  ⟨rfl, fun _ opened => opened⟩

theorem continues_hasNext (cursor : ResultCursor) (session : σ) :
    cursor.Continues (hasNext.after (cursor, session)).1 := by
  simp only [Step.after, hasNext, fetchMore]
  cases cursor.hasNextKnown? with
  | some answer => exact .refl cursor
  | none =>
      cases cursor.lastRowFetched with
      | true => exact .refl cursor
      | false =>
          cases opened : cursor.columns with
          | none => exact .refl cursor
          | some columns =>
              simp only [Bool.false_eq_true, if_false]
              cases cursor.fetchBatch columns session with
              | ok batch after => exact ⟨rfl, fun _ same => same⟩
              | error error after => exact .refl cursor

theorem continues_next (cursor : ResultCursor) (session : σ) :
    cursor.Continues (next.after (cursor, session)).1 := by
  have asked := continues_hasNext cursor session
  simp only [Step.after, next] at asked ⊢
  by_cases closed : cursor.isClosed = true
  · rw [if_pos closed]
    by_cases nothing : cursor.taken = 0
    · rw [if_pos nothing]
      exact .refl cursor
    · rw [if_neg nothing]
      exact .refl cursor
  · rw [if_neg closed]
    cases ran : hasNext (cursor, session) with
    | error error after =>
        rw [ran] at asked
        exact asked
    | ok more after =>
        obtain ⟨later, after⟩ := after
        rw [ran] at asked
        cases more with
        | false => exact ⟨asked.statementId_eq, asked.columns_eq⟩
        | true =>
            simp only
            cases later.batchRow later.batchTaken with
            | ok row => exact ⟨asked.statementId_eq, asked.columns_eq⟩
            | error error => exact ⟨asked.statementId_eq, asked.columns_eq⟩

theorem Regular.hasNext (regular : cursor.Regular) (opened : cursor.columns = some columns)
    (session : σ) : (hasNext.after (cursor, session)).1.Regular := by
  have outcome := hasNext_outcome regular opened session
  unfold Step.after
  generalize ResultCursor.hasNext (cursor, session) = result at outcome ⊢
  cases outcome with
  | known answer known => exact regular
  | fetched batch after needed fetched => exact regular.withBatch needed batch _
  | failed error after needed failed => exact regular

theorem Regular.next (regular : cursor.Regular) (opened : cursor.columns = some columns)
    (session : σ) : (next.after (cursor, session)).1.Regular := by
  have behind := regular.hasNext opened session
  -- The row that was told of is there, so the cursor may be moved onto it.
  have advance : ∀ later after, ResultCursor.hasNext (cursor, session) = .ok true (later, after) →
      later.advance.Regular := by
    intro later after asked
    rw [Step.after, asked] at behind
    obtain ⟨_, batch, present, room⟩ :=
      of_hasNextKnown?_eq_true (hasNextKnown?_of_hasNext regular opened asked)
    exact Regular.advance behind present room
  have outcome := next_outcome regular opened session
  unfold Step.after
  generalize ResultCursor.next (cursor, session) = result at outcome ⊢
  cases outcome with
  | failed error after needed failed => exact regular
  | ended later after asked =>
      rw [Step.after, asked] at behind
      exact Regular.finish behind
  | handed later after row asked found => exact advance later after asked
  | refused later after error asked found => exact advance later after asked

end ResultCursor

end

end RowCursor
