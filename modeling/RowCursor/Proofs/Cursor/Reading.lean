import RowCursor.Proofs.Session.Metadata

/-!
# Reading a result to its end

A session that answers one fetch after the other with the batches of a result, of which
only the last may be empty and only the last is announced as such, delivers the result to
whoever calls `next` until no row is left.  No call is made in vain, and none fetches more
than is there.
-/

set_option autoImplicit false

namespace RowCursor

section

variable {σ : Type} [RowSession σ]

namespace ResultCursor

variable {cursor : ResultCursor} {columns : Columns}

/-- Call `next` until no row is left, so many times at most.  The rows, or `none` if some
may be left. -/
def readAll : (calls : Nat) → Step (ResultCursor × σ) (Option (List PacketRow))
  | 0 => return none
  | calls + 1 => do
    match ← next with
    | none => return some []
    | some row => return (← readAll calls).map (row :: ·)

theorem readAll_of_end {state after : ResultCursor × σ} (ended : next state = .ok none after)
    (calls : Nat) : readAll (calls + 1) state = .ok (some []) after := by
  simp only [readAll, bind, EStateM.bind, ended]
  rfl

theorem readAll_of_row {state between after : ResultCursor × σ} {row : PacketRow}
    {calls : Nat} {rows : List PacketRow} (moved : next state = .ok (some row) between)
    (others : readAll calls between = .ok (some rows) after) :
    readAll (calls + 1) state = .ok (some (row :: rows)) after := by
  simp only [readAll, bind, EStateM.bind, moved, others]
  rfl

theorem readAll_of_next_eq {state other : ResultCursor × σ} (same : next state = next other)
    (calls : Nat) : readAll (calls + 1) state = readAll (calls + 1) other := by
  simp only [readAll, bind, EStateM.bind, same]

/-! ## Between two rows -/

theorem fetchCommand_of_unlimited (unlimited : cursor.options.maxRows = none) :
    cursor.fetchCommand =
      (Command.fetch cursor.statementId cursor.options.rowsPerFetch).encode := by
  simp only [fetchCommand, rowsToRequest, unlimited]

/-- The cursor is on its way through a result without a limit. -/
structure OnTheWay (statementId : UInt32) (columns : Columns) (options : CursorOptions)
    (cursor : ResultCursor) : Prop where
  regular : cursor.Regular
  opened : cursor.columns = some columns
  statementId_eq : cursor.statementId = statementId
  options_eq : cursor.options = options
  unlimited : options.maxRows = none

/-- These rows of the batch are left, and then there is more, or not. -/
structure Reading (statementId : UInt32) (columns : Columns) (options : CursorOptions)
    (left : List PacketRow) (more : Bool) (cursor : ResultCursor) : Prop
    extends OnTheWay statementId columns options cursor where
  batch_eq : ∃ batch, cursor.batch = some batch ∧ batch.toList.drop cursor.batchTaken = left ∧
    (more = true → batch.isEmpty = false)
  carries : ∀ row ∈ left, row.Carries columns
  lastRowFetched_eq : cursor.lastRowFetched = !more

variable {statementId : UInt32} {options : CursorOptions} {left : List PacketRow} {more : Bool}

theorem onTheWay_create (statementId : UInt32) (columns : Columns)
    (unlimited : options.maxRows = none) :
    OnTheWay statementId columns options (create statementId columns options) where
  regular := regular_create statementId columns options
  opened := rfl
  statementId_eq := rfl
  options_eq := rfl
  unlimited

theorem OnTheWay.maxRowsReached_eq (way : OnTheWay statementId columns options cursor) :
    cursor.maxRowsReached = false := by
  simp only [maxRowsReached, way.options_eq, way.unlimited]

theorem hasNextKnown?_create (statementId : UInt32) (columns : Columns)
    (unlimited : options.maxRows = none) :
    (create statementId columns options).hasNextKnown? = none := by
  have way := onTheWay_create statementId columns unlimited
  simp only [hasNextKnown?, isClosed_eq_false way.opened, way.maxRowsReached_eq]
  rfl

theorem OnTheWay.fetchCommand_eq (way : OnTheWay statementId columns options cursor) :
    cursor.fetchCommand = (Command.fetch statementId options.rowsPerFetch).encode := by
  have unlimited := way.unlimited
  rw [← way.options_eq] at unlimited
  rw [fetchCommand_of_unlimited unlimited, way.statementId_eq, way.options_eq]

theorem Reading.hasNextKnown?_of_row {row : PacketRow}
    (reading : Reading statementId columns options (row :: left) more cursor) :
    cursor.hasNextKnown? = some true := by
  obtain ⟨batch, present, rest, _⟩ := reading.batch_eq
  have room : cursor.batchTaken < batch.size := by
    have length := congrArg List.length rest
    rw [List.length_drop, Array.length_toList, List.length_cons] at length
    omega
  have nonempty : batch.isEmpty = false := by
    rw [Array.isEmpty_eq_false_iff]
    rintro rfl
    exact absurd room (Nat.not_lt_zero _)
  simp only [hasNextKnown?, isClosed_eq_false reading.opened, reading.maxRowsReached_eq, present,
    nonempty, if_pos room, Bool.or_self, Bool.false_eq_true, if_false]

theorem Reading.hasNextKnown?_of_nil
    (reading : Reading statementId columns options [] more cursor) :
    cursor.hasNextKnown? = if more then none else some false := by
  obtain ⟨batch, present, rest, nonempty⟩ := reading.batch_eq
  have used : ¬cursor.batchTaken < batch.size := by
    have length := congrArg List.length rest
    rw [List.length_drop, Array.length_toList, List.length_nil] at length
    omega
  have lastRowFetched := reading.lastRowFetched_eq
  simp only [hasNextKnown?, isClosed_eq_false reading.opened, reading.maxRowsReached_eq, present,
    if_neg used, Bool.or_self, Bool.false_eq_true, if_false]
  cases more with
  | true =>
      -- Only the empty batch could be the end without being announced as such.
      simp [nonempty rfl, lastRowFetched]
  | false => simp [lastRowFetched]

theorem Reading.next_of_row {row : PacketRow} (session : σ)
    (reading : Reading statementId columns options (row :: left) more cursor) :
    next (cursor, session) = .ok (some row) (cursor.advance, session) ∧
      Reading statementId columns options left more cursor.advance := by
  have known := reading.hasNextKnown?_of_row
  obtain ⟨_, current, filled, room⟩ := of_hasNextKnown?_eq_true known
  obtain ⟨batch, present, rest, nonempty⟩ := reading.batch_eq
  have found : cursor.batchRow cursor.batchTaken = .ok row := by
    have here : batch[cursor.batchTaken]? = some row := by
      have first := congrArg List.head? rest
      rwa [List.head?_drop, List.head?_cons, Array.getElem?_toList] at first
    rw [batchRow_of_present reading.opened present here]
    exact PacketRow.setColumns_of_carries (reading.carries row List.mem_cons_self)
  constructor
  · rw [next_of_more reading.opened (hasNext_of_known known), found]
  · refine {
      regular := reading.regular.advance filled room
      opened := reading.opened
      statementId_eq := reading.statementId_eq
      options_eq := reading.options_eq
      unlimited := reading.unlimited
      batch_eq := ⟨batch, present, ?_, nonempty⟩
      carries := fun other member => reading.carries other (List.mem_cons_of_mem _ member)
      lastRowFetched_eq := reading.lastRowFetched_eq }
    rw [advance, ← List.drop_drop, rest]
    rfl

theorem Reading.next_of_nil {session : σ}
    (reading : Reading statementId columns options [] false cursor) :
    next (cursor, session) = .ok none (cursor.finish, session) :=
  next_of_end reading.opened (hasNext_of_known reading.hasNextKnown?_of_nil)

theorem Reading.readAll_eq {calls : Nat} {rows : List PacketRow} {session final : σ}
    (reading : Reading statementId columns options left more cursor)
    (later : ∀ used, Reading statementId columns options [] more used →
      ∃ done, readAll calls (used, session) = .ok (some rows) (done, final)) :
    ∃ done, readAll (left.length + calls) (cursor, session) =
      .ok (some (left ++ rows)) (done, final) := by
  induction left generalizing cursor with
  | nil =>
      rw [List.length_nil, Nat.zero_add, List.nil_append]
      exact later cursor reading
  | cons row left ih =>
      obtain ⟨moved, behind⟩ := reading.next_of_row session
      obtain ⟨done, others⟩ := ih behind
      refine ⟨done, ?_⟩
      have count : (row :: left).length + calls = left.length + calls + 1 := by
        rw [List.length_cons]
        omega
      rw [count]
      exact readAll_of_row moved others

/-! ## A fetch on the way -/

/-- Where a fetch is needed, `next` goes on as over the new batch. -/
theorem next_of_fetched {batch : Array PacketRow} {session after : σ} (regular : cursor.Regular)
    (opened : cursor.columns = some columns) (needed : cursor.hasNextKnown? = none)
    (fetched : cursor.fetchBatch columns session = .ok batch after) :
    next (cursor, session) =
      next (cursor.withBatch batch (RowSession.lastRowSent after), after) := by
  have more := regular.lastRowFetched_eq_false needed
  have unlimited := (of_hasNextKnown?_eq_none needed).1
  have asked := hasNext_of_fetched needed (fetchMore_of_fetched more opened fetched)
  have known := hasNextKnown?_withBatch opened unlimited batch (RowSession.lastRowSent after)
  have again : hasNext (cursor.withBatch batch (RowSession.lastRowSent after), after) =
      .ok _ (cursor.withBatch batch (RowSession.lastRowSent after), after) :=
    hasNext_of_known known
  have reading : (cursor.withBatch batch (RowSession.lastRowSent after)).isClosed = false :=
    isClosed_eq_false opened
  simp only [next, isClosed_eq_false opened, reading, asked, again]
  rfl

theorem OnTheWay.withBatch (way : OnTheWay statementId columns options cursor)
    (needed : cursor.hasNextKnown? = none) {batch : Array PacketRow} {last : Bool}
    (carries : ∀ row ∈ batch, row.Carries columns)
    (nonempty : last = false → batch.isEmpty = false) :
    Reading statementId columns options batch.toList (!last) (cursor.withBatch batch last) where
  regular := way.regular.withBatch needed batch last
  opened := way.opened
  statementId_eq := way.statementId_eq
  options_eq := way.options_eq
  unlimited := way.unlimited
  batch_eq := ⟨batch, rfl, rfl, fun more => nonempty (by simpa using more)⟩
  carries row member := carries row (Array.mem_toList_iff.mp member)
  lastRowFetched_eq := by
    simp [ResultCursor.withBatch, way.regular.lastRowFetched_eq_false needed]

/-! ## A result in batches -/

/-- One after the other, the session answers the command with these batches.  It announces
the last one, and the others have rows. -/
inductive Delivers (command : Bytes) (columns : Columns) : List (List PacketRow) → σ → σ → Prop
  | last {before between after : σ} {batch : Array PacketRow}
      (sent : RowSession.sendCommand command before = .ok () between)
      (read : RowSession.readBatch columns #[] between = .ok batch after)
      (told : RowSession.lastRowSent after = true) :
      Delivers command columns [batch.toList] before after
  | more {before between after final : σ} {batch : Array PacketRow}
      {batches : List (List PacketRow)}
      (sent : RowSession.sendCommand command before = .ok () between)
      (read : RowSession.readBatch columns #[] between = .ok batch after)
      (told : RowSession.lastRowSent after = false) (nonempty : batch.isEmpty = false)
      (later : Delivers command columns batches after final) :
      Delivers command columns (batch.toList :: batches) before final

theorem OnTheWay.readAll_eq (carry : RowsCarry σ) (way : OnTheWay statementId columns options cursor)
    (needed : cursor.hasNextKnown? = none) {before between after final : σ}
    {batch : Array PacketRow}
    (sent : RowSession.sendCommand (Command.fetch statementId options.rowsPerFetch).encode before =
      .ok () between)
    (read : RowSession.readBatch columns #[] between = .ok batch after)
    (nonempty : RowSession.lastRowSent after = false → batch.isEmpty = false)
    {calls : Nat} {rows : List PacketRow}
    (later : ∀ used, Reading statementId columns options [] (!RowSession.lastRowSent after) used →
      ∃ done, readAll (calls + 1) (used, after) = .ok (some rows) (done, final)) :
    ∃ done, readAll (batch.toList.length + (calls + 1)) (cursor, before) =
      .ok (some (batch.toList ++ rows)) (done, final) := by
  have fetched : cursor.fetchBatch columns before = .ok batch after := by
    rw [fetchBatch_eq, way.fetchCommand_eq, sent]
    exact read
  have carries : ∀ row ∈ batch, row.Carries columns := fetchBatch_carries carry fetched
  have reading := way.withBatch needed carries nonempty
  have same := next_of_fetched way.regular way.opened needed fetched
  obtain ⟨done, all⟩ := reading.readAll_eq later
  refine ⟨done, ?_⟩
  rw [← Nat.add_assoc] at all ⊢
  rw [readAll_of_next_eq same]
  exact all

/-- The batches are read to the end, with one call for every row and one for the end. -/
theorem OnTheWay.readAll_of_delivers (carry : RowsCarry σ)
    (way : OnTheWay statementId columns options cursor) (needed : cursor.hasNextKnown? = none)
    {batches : List (List PacketRow)} {session final : σ}
    (delivers : Delivers (Command.fetch statementId options.rowsPerFetch).encode columns batches
      session final) :
    ∃ done, readAll (batches.flatten.length + 1) (cursor, session) =
      .ok (some batches.flatten) (done, final) := by
  induction delivers generalizing cursor with
  | @last before between after batch sent read told =>
      have end_ : ∀ used, Reading statementId columns options [] (!RowSession.lastRowSent after)
          used → ∃ done, readAll (0 + 1) (used, after) = .ok (some []) (done, after) := by
        intro used reading
        rw [told] at reading
        exact ⟨used.finish, readAll_of_end reading.next_of_nil 0⟩
      have nonempty : RowSession.lastRowSent after = false → batch.isEmpty = false := by
        rw [told]
        intro more
        cases more
      have all := way.readAll_eq carry needed sent read nonempty end_
      rw [List.append_nil, Nat.zero_add] at all
      rwa [List.flatten_singleton]
  | @more before between after final batch batches sent read told nonempty later ih =>
      have others : ∀ used, Reading statementId columns options [] (!RowSession.lastRowSent after)
          used → ∃ done, readAll (batches.flatten.length + 1) (used, after) =
            .ok (some batches.flatten) (done, final) := by
        intro used reading
        rw [told] at reading
        exact ih reading.toOnTheWay reading.hasNextKnown?_of_nil
      have all := way.readAll_eq carry needed sent read (fun _ => nonempty) others
      rwa [List.flatten_cons, List.length_append, Nat.add_assoc]

end ResultCursor

end

end RowCursor
