import RowCursor.Proofs.Cursor.Position
import RowCursor.Proofs.Cursor.Questions

/-!
# A visit is repeated moves

A visit hands its visitor the rows that repeated calls of `next` would hand out, and leaves the
cursor and the session where these calls would (`Visited`).  The rows that such calls hand out
are those that wait in the batch and those of the batches that arrive, in order
(`ReadsOn`).  So behind a visit that was broken off, by the visitor or by a failed fetch, the
next visit goes on with the row behind the last one.
-/

set_option autoImplicit false

namespace RowCursor.ResultCursor

section

variable {σ τ : Type} [RowSession σ] {before between after : ResultCursor × σ}
  {rows : List PacketRow} {row : PacketRow}

/-! ## Rows handed out by repeated moves -/

/-- One after the other, calls of `next` hand out these rows. -/
inductive HandsOut : ResultCursor × σ → List PacketRow → ResultCursor × σ → Prop where
  | none (state : ResultCursor × σ) : HandsOut state [] state
  | row {before between after : ResultCursor × σ} {row : PacketRow} {rows : List PacketRow}
      (moved : next before = .ok (some row) between) (later : HandsOut between rows after) :
      HandsOut before (row :: rows) after

theorem HandsOut.append {further : List PacketRow} {last : ResultCursor × σ}
    (handed : HandsOut before rows after) (more : HandsOut after further last) :
    HandsOut before (rows ++ further) last := by
  induction handed with
  | none state => exact more
  | row moved later ih => exact .row moved (ih more)

theorem HandsOut.exists_last (handed : HandsOut before (rows ++ [row]) after) :
    ∃ between, HandsOut before rows between ∧ next between = .ok (some row) after := by
  induction rows generalizing before with
  | nil =>
      cases handed with
      | row moved none =>
          cases none
          exact ⟨before, .none before, moved⟩
  | cons first rows ih =>
      cases handed with
      | row moved later =>
          obtain ⟨between, front, last⟩ := ih later
          exact ⟨between, .row moved front, last⟩

/-! ## How a visit comes out -/

/-- How a visit ends, with what rows, and where it leaves cursor, session and visitor. -/
inductive Visited (visit : PacketRow → Step τ Unit) (limit : Nat) (before : ResultCursor × σ)
    (visited : τ) : EStateM.Result Error ((ResultCursor × σ) × τ) Bool → Prop where
  /-- As many rows were visited as the limit admits. -/
  | paused {rows : List PacketRow} {after : ResultCursor × σ} {seen : τ}
      (handed : HandsOut before rows after) (shown : rows.forM visit visited = .ok () seen)
      (full : rows.length = limit) : Visited visit limit before visited (.ok false (after, seen))
  /-- Behind the rows no row is left. -/
  | ended {rows : List PacketRow} {between after : ResultCursor × σ} {seen : τ}
      (handed : HandsOut before rows between) (shown : rows.forM visit visited = .ok () seen)
      (below : rows.length < limit) (ended : next between = .ok none after) :
      Visited visit limit before visited (.ok true (after, seen))
  /-- The visitor fails on the row behind these. -/
  | refused {rows : List PacketRow} {row : PacketRow} {after : ResultCursor × σ} {seen left : τ}
      {error : Error} (handed : HandsOut before (rows ++ [row]) after)
      (shown : rows.forM visit visited = .ok () seen) (below : rows.length < limit)
      (refused : visit row seen = .error error left) :
      Visited visit limit before visited (.error error (after, left))
  /-- The move behind the rows fails. -/
  | broken {rows : List PacketRow} {between after : ResultCursor × σ} {seen : τ} {error : Error}
      (handed : HandsOut before rows between) (shown : rows.forM visit visited = .ok () seen)
      (below : rows.length < limit) (failed : next between = .error error after) :
      Visited visit limit before visited (.error error (after, seen))

theorem forM_cons_of_ok {visit : PacketRow → Step τ Unit} {visited seen : τ}
    (shown : visit row visited = .ok () seen) (rows : List PacketRow) :
    (row :: rows).forM visit visited = rows.forM visit seen := by
  change (visit row >>= fun _ => rows.forM visit) visited = rows.forM visit seen
  simp only [bind, EStateM.bind, shown]

/-- A visit goes on behind a row that was visited. -/
theorem Visited.behind {visit : PacketRow → Step τ Unit} {limit : Nat} {visited seen : τ}
    {result : EStateM.Result Error ((ResultCursor × σ) × τ) Bool}
    (moved : next before = .ok (some row) between) (first : visit row visited = .ok () seen)
    (rest : Visited visit limit between seen result) :
    Visited visit (limit + 1) before visited result := by
  have seenFirst (rows : List PacketRow) :
      (row :: rows).forM visit visited = rows.forM visit seen := forM_cons_of_ok first rows
  cases rest with
  | paused handed shown full =>
      exact .paused (.row moved handed) ((seenFirst _).trans shown) (congrArg Nat.succ full)
  | ended handed shown below ended =>
      exact .ended (.row moved handed) ((seenFirst _).trans shown) (Nat.succ_lt_succ below) ended
  | @refused rows last after seen left error handed shown below refused =>
      have all : HandsOut before ((row :: rows) ++ [last]) after := .row moved handed
      exact .refused all ((seenFirst _).trans shown) (Nat.succ_lt_succ below) refused
  | broken handed shown below failed =>
      exact .broken (.row moved handed) ((seenFirst _).trans shown) (Nat.succ_lt_succ below) failed

theorem forEachUpTo_visited (visit : PacketRow → Step τ Unit) (limit : Nat)
    (before : ResultCursor × σ) (visited : τ) :
    Visited visit limit before visited (forEachUpTo visit limit (before, visited)) := by
  induction limit generalizing before visited with
  | zero => exact .paused (.none before) rfl rfl
  | succ limit ih =>
      rw [forEachUpTo]
      cases moved : next before with
      | error error after => exact .broken (.none before) rfl (Nat.succ_pos limit) moved
      | ok answer between =>
          cases answer with
          | none => exact .ended (.none before) rfl (Nat.succ_pos limit) moved
          | some row =>
              cases shown : visit row visited with
              | error error left =>
                  have only : HandsOut before ([] ++ [row]) between := .row moved (.none between)
                  simp only [shown]
                  exact .refused only rfl (Nat.succ_pos limit) shown
              | ok done seen =>
                  simp only [shown]
                  exact (ih between seen).behind moved shown

/-- What a visit comes to once it is over, it comes to under every higher limit. -/
theorem forEachUpTo_of_le (visit : PacketRow → Step τ Unit) {limit higher : Nat}
    {state : (ResultCursor × σ) × τ} (within : limit ≤ higher)
    (finished : ∀ paused, forEachUpTo visit limit state ≠ .ok false paused) :
    forEachUpTo visit higher state = forEachUpTo visit limit state := by
  induction limit generalizing higher state with
  | zero => exact absurd rfl (finished state)
  | succ limit ih =>
      obtain ⟨more, rfl⟩ := Nat.exists_eq_add_of_lt within
      obtain ⟨before, visited⟩ := state
      rw [forEachUpTo] at finished
      rw [forEachUpTo, forEachUpTo]
      cases moved : next before with
      | error error after => rfl
      | ok answer between =>
          cases answer with
          | none => rfl
          | some row =>
              simp only [moved] at finished
              cases shown : visit row visited with
              | error error left => simp only [shown]
              | ok done seen =>
                  simp only [shown] at finished ⊢
                  exact ih (Nat.le_add_right limit more) finished

end

/-- With a limited supply of rows, a visit of all of them is one with a limit that it does not
reach. -/
theorem map_forEach {σ τ : Type} [SuppliedSession σ] (visit : PacketRow → Step τ Unit)
    (before : ResultCursor × σ) (visited : τ) :
    ((fun _ => true) <$> forEach visit) (before, visited) =
      forEachUpTo visit (rowsBound before + 1) (before, visited) := by
  simp only [Functor.map, EStateM.map, forEach]
  cases ran : forEachUpTo visit (rowsBound before + 1) (before, visited) with
  | error error state => rfl
  | ok ended state =>
      have enough : rowsBound before < rowsBound before + 1 := Nat.lt_succ_self _
      rw [forEachUpTo_reaches_end visit enough ran]

/-! ## The rows in hand -/

section

variable {cursor later : ResultCursor} {columns : Columns} {row : PacketRow}

/-- The rows of the batch carry the metadata of the cursor. -/
def Carrying (cursor : ResultCursor) : Prop :=
  ∀ columns, cursor.columns = some columns → ∀ row ∈ cursor.batch.getD #[], row.Carries columns

/-- The row is the one in the batch that was passed last, and the number of the current row
tells how many were passed. -/
structure StandsOn (cursor : ResultCursor) (row : PacketRow) : Prop where
  number_eq : cursor.currentRowNumber = cursor.taken
  current : ∃ batch index, cursor.batch = some batch ∧ batch[index]? = some row ∧
    cursor.batchTaken = index + 1

/-- Over a session whose rows carry the metadata, whatever the owner of a cursor calls, the rows
in its hand carry it. -/
theorem carrying_lifetime {σ : Type} [RowSession σ] (carry : RowsCarry σ) (statementId : UInt32)
    (columns : Columns) (options : CursorOptions) (session : σ) (calls : List OwnerCall) :
    ∀ moment ∈
        (Progress.start statementId columns options (Recorded.ofSession session)).lifetime calls,
      moment.cursor.Carrying := by
  intro moment member attached opened
  have consistent :=
    Progress.consistent_lifetime carry statementId columns options session calls moment member
  exact consistent.carries opened

/-- The row that is handed out is the next one of the batch, as it is. -/
theorem getElem?_of_batchRow (carrying : cursor.Carrying) (opened : cursor.columns = some columns)
    {batch : Array PacketRow} (present : cursor.batch = some batch) {index : Nat}
    (found : cursor.batchRow index = .ok row) : batch[index]? = some row := by
  cases known : batch[index]? with
  | none => simp [batchRow, opened, present, known] at found
  | some given =>
      have member : given ∈ cursor.batch.getD #[] := by
        rw [present]
        exact Array.mem_of_getElem? known
      rw [batchRow_of_present opened present known,
        PacketRow.setColumns_of_carries (carrying columns opened given member)] at found
      cases found
      rfl

/-- On a row that follows, the number of the current row tells how many were passed. -/
theorem currentRowNumber_advance (placed : cursor.Placed) (opened : cursor.columns = some columns)
    (more : cursor.hasNextKnown? = some true) :
    cursor.advance.currentRowNumber = cursor.advance.taken := by
  have reading : cursor.advance.isClosed = false := isClosed_eq_false opened
  have going : cursor.advance.isAfterLast = false := by
    cases behind : cursor.advance.isAfterLast with
    | false => rfl
    | true =>
        have ended := (placed.of_isAfterLast behind).2
        rw [more] at ended
        cases ended
  rw [currentRowNumber_of_open reading, going]
  rfl

end

/-! ## Rows in order -/

section

variable {σ : Type} [RowSession σ] {cursor later : ResultCursor} {columns : Columns}
  {row : PacketRow} {rows further : List PacketRow} {recorded noted : Recorded σ}
  {before between after : ResultCursor × Recorded σ}

theorem Carrying.of_hasNext (carry : RowsCarry σ) (reached : cursor.Reachable)
    (carrying : cursor.Carrying) {more : Bool}
    (asked : hasNext (cursor, recorded) = .ok more (later, noted)) : later.Carrying := by
  intro columns reading
  have opened : cursor.columns = some columns := (columns_of_hasNext asked).symm.trans reading
  exact carries_of_hasNext carry.recorded (reached.regular opened) opened
    (carrying columns opened) asked

/-- Behind a question the rows wait that waited before, and those of a batch that arrived. -/
theorem waiting_of_hasNext (regular : cursor.Regular) (opened : cursor.columns = some columns)
    {more : Bool} (asked : hasNext (cursor, recorded) = .ok more (later, noted)) :
    ∃ arrived, noted.batches = recorded.batches ++ arrived ∧
      later.waiting = cursor.waiting ++ arrived.flatten := by
  have outcome := hasNext_outcome regular opened recorded
  rw [asked] at outcome
  cases outcome with
  | known _ known => exact ⟨[], (List.append_nil _).symm, (List.append_nil _).symm⟩
  | fetched batch _ needed fetched =>
      refine ⟨[batch.toList], (fetchBatch_record fetched).2, ?_⟩
      rw [waiting_eq_nil needed, List.nil_append, List.flatten_singleton]
      rfl

/-- From one state to the other these rows were handed out, of those that waited and of the
batches that arrived, in order; the others wait. -/
structure ReadsOn (before : ResultCursor × Recorded σ) (rows : List PacketRow)
    (after : ResultCursor × Recorded σ) : Prop where
  reached : after.1.Reachable
  carrying : after.1.Carrying
  taken_eq : after.1.taken = before.1.taken + rows.length
  in_order : ∃ arrived, after.2.batches = before.2.batches ++ arrived ∧
    before.1.waiting ++ arrived.flatten = rows ++ after.1.waiting

omit [RowSession σ] in
theorem ReadsOn.append (first : ReadsOn before rows between)
    (second : ReadsOn between further after) : ReadsOn before (rows ++ further) after := by
  obtain ⟨arrived, noted, order⟩ := first.in_order
  obtain ⟨more, notedLater, orderLater⟩ := second.in_order
  refine ⟨second.reached, second.carrying, ?_, arrived ++ more, ?_, ?_⟩
  · rw [second.taken_eq, first.taken_eq, List.length_append, Nat.add_assoc]
  · rw [notedLater, noted, List.append_assoc]
  · calc before.1.waiting ++ (arrived ++ more).flatten
        = (before.1.waiting ++ arrived.flatten) ++ more.flatten := by
          rw [List.flatten_append, List.append_assoc]
      _ = rows ++ (between.1.waiting ++ more.flatten) := by rw [order, List.append_assoc]
      _ = (rows ++ further) ++ after.1.waiting := by rw [orderLater, List.append_assoc]

/-- A move that hands out a row reads on by that row, and stands on it. -/
theorem readsOn_of_next (carry : RowsCarry σ) (reached : cursor.Reachable)
    (carrying : cursor.Carrying)
    (moved : next (cursor, recorded) = .ok (some row) (later, noted)) :
    ReadsOn (cursor, recorded) [row] (later, noted) ∧ later.StandsOn row := by
  have behind := Reachable.moved recorded reached
  rw [Step.after, moved] at behind
  cases closed : cursor.isClosed with
  | true =>
      simp only [next, closed, if_true] at moved
      split at moved <;> cases moved
  | false =>
      obtain ⟨columns, opened⟩ := exists_columns closed
      have regular := reached.regular opened
      have outcome := next_outcome regular opened recorded
      rw [moved] at outcome
      cases outcome with
      | handed told _ _ asked found =>
          have reading : told.columns = some columns := (columns_of_hasNext asked).trans opened
          have known := hasNextKnown?_of_hasNext regular opened asked
          have carries := carrying.of_hasNext carry reached asked
          obtain ⟨_, batch, present, _⟩ := of_hasNextKnown?_eq_true known
          have here := getElem?_of_batchRow carries reading present found
          obtain ⟨arrived, recordedLater, waits⟩ := waiting_of_hasNext regular opened asked
          have placed := (reached.of_hasNext asked).placed reading
          constructor
          · refine ⟨behind, carries, ?_, arrived, recordedLater, ?_⟩
            · exact congrArg Nat.succ (taken_of_hasNext asked)
            · rw [← waits]
              exact waiting_advance present here
          · exact ⟨currentRowNumber_advance placed reading known, batch, told.batchTaken, present,
              here, rfl⟩

theorem readsOn_of_handsOut (carry : RowsCarry σ) (reached : before.1.Reachable)
    (carrying : before.1.Carrying) (handed : HandsOut before rows after) :
    ReadsOn before rows after := by
  induction handed with
  | none state =>
      exact ⟨reached, carrying, rfl, [], (List.append_nil _).symm, List.append_nil _⟩
  | row moved _ ih =>
      have first := (readsOn_of_next carry reached carrying moved).1
      exact first.append (ih first.reached first.carrying)

/-- Behind a row that was handed out, the cursor stands on it. -/
theorem standsOn_of_handsOut (carry : RowsCarry σ) (reached : before.1.Reachable)
    (carrying : before.1.Carrying) (handed : HandsOut before rows after)
    (last : rows.getLast? = some row) : after.1.StandsOn row := by
  obtain ⟨front, rfl⟩ := List.getLast?_eq_some_iff.mp last
  obtain ⟨between, first, moved⟩ := handed.exists_last
  have here := readsOn_of_handsOut carry reached carrying first
  exact (readsOn_of_next carry here.reached here.carrying moved).2

end

/-! ## Moves that fail -/

section

variable {σ : Type} [RowSession σ] {cursor : ResultCursor} {session : σ}

/-- A move fails because its fetch fails, and the cursor is left as it was; or it is refused
because the cursor was closed behind a row. -/
inductive MoveFails (before : ResultCursor × σ) : Error → ResultCursor × σ → Prop where
  | fetch {columns : Columns} {source : Error} {after : σ}
      (opened : before.1.columns = some columns) (needed : before.1.hasNextKnown? = none)
      (fails : FetchFails before.1.fetchCommand columns before.2 source after) :
      MoveFails before (.fetchFailed before.1.statementId source) (before.1, after)
  | closed (closed : before.1.isClosed = true) (passed : before.1.taken ≠ 0) :
      MoveFails before .resultSetClosed before

theorem next_eq_error_iff (carry : RowsCarry σ) (reached : cursor.Reachable)
    (carrying : cursor.Carrying) {error : Error} {failed : ResultCursor × σ} :
    next (cursor, session) = .error error failed ↔ MoveFails (cursor, session) error failed := by
  constructor
  · intro moved
    cases closed : cursor.isClosed with
    | true =>
        simp only [next, closed, if_true] at moved
        split at moved
        · cases moved
        · rename_i passed
          cases moved
          exact .closed closed passed
    | false =>
        obtain ⟨columns, opened⟩ := exists_columns closed
        have outcome := next_outcome (reached.regular opened) opened session
        rw [moved] at outcome
        cases outcome with
        | failed source after needed failed =>
            exact .fetch opened needed (fetchBatch_eq_error_iff.mp failed)
        | refused told after _ asked found =>
            -- A row that was announced takes the metadata.
            obtain ⟨row, answered⟩ := exists_row_of_announced carry reached carrying asked
            rw [Step.answer, moved] at answered
            cases answered
  · intro fails
    cases fails with
    | fetch opened needed fails =>
        exact next_of_fetchFails (reached.regular opened) opened needed fails
    | closed closed passed =>
        simp only at closed passed
        simp only [next, closed, if_true, if_neg passed]

/-! ## Visits that are broken off -/

/-- A record of the session may be kept while rows are handed out. -/
theorem HandsOut.recorded {rows : List PacketRow} {after : ResultCursor × σ}
    (before : ResultCursor × Recorded σ) (handed : HandsOut (withoutRecord before) rows after) :
    ∃ noted, withoutRecord noted = after ∧ HandsOut before rows noted := by
  generalize plain : withoutRecord before = start at handed
  induction handed generalizing before with
  | none state => exact ⟨before, plain, .none before⟩
  | row moved later ih =>
      have same := withoutRecord_next before
      rw [plain, moved] at same
      cases ran : next before with
      | error error between =>
          rw [ran] at same
          cases same
      | ok answer between =>
          rw [ran] at same
          cases same
          obtain ⟨noted, behind, more⟩ := ih between rfl
          exact ⟨noted, behind, .row ran more⟩

/-- Over every session a visit is repeated calls of `next`, with or without a limit.  If the rows
in hand and those of the session carry the metadata: the cursor stands on the last row that was
handed out; a move behind it fails only by its fetch, which leaves the cursor there, or because
the cursor was closed; and what further calls hand out are the rows right behind it, of those that
wait and of the batches that arrive, each once and in order. -/
theorem visit_is_repeated_next (carry : RowsCarry σ) (reached : cursor.Reachable)
    (carrying : cursor.Carrying) (session : σ) :
    (∀ (τ : Type) (visit : PacketRow → Step τ Unit) (visited : τ) (limit : Nat),
      let result := forEachUpTo visit limit ((cursor, session), visited)
      Visited visit limit (cursor, session) visited result ∧
        ((∀ paused, result ≠ .ok false paused) → ∀ higher, limit ≤ higher →
          forEachUpTo visit higher ((cursor, session), visited) = result)) ∧
    (∀ (υ τ : Type) [SuppliedSession υ] (current : υ) (visit : PacketRow → Step τ Unit)
      (visited : τ),
      let state := (cursor, current)
      Visited visit (rowsBound state + 1) state visited
        (((fun _ => true) <$> forEach visit) (state, visited))) ∧
    ∀ rows after, HandsOut (cursor, session) rows after →
      (∀ row, rows.getLast? = some row → after.1.StandsOn row ∧
        after.1.currentRowNumber = cursor.taken + rows.length) ∧
      (∀ error failed, next after = .error error failed ↔ MoveFails after error failed) ∧
      ∃ noted, withoutRecord noted = after ∧
        HandsOut (cursor, Recorded.ofSession session) rows noted ∧
        ∀ further last, HandsOut noted further last →
          cursor.waiting ++ last.2.batches.flatten = rows ++ further ++ last.1.waiting := by
  refine ⟨?_, ?_, ?_⟩
  · intro τ visit visited limit result
    refine ⟨forEachUpTo_visited visit limit _ visited, ?_⟩
    intro finished higher within
    exact forEachUpTo_of_le visit within finished
  · intro υ τ _ current visit visited state
    rw [map_forEach]
    exact forEachUpTo_visited visit _ state visited
  · intro rows after handed
    obtain ⟨noted, rfl, shown⟩ := HandsOut.recorded (cursor, .ofSession session) handed
    have here := readsOn_of_handsOut carry reached carrying shown
    refine ⟨?_, fun error failed => next_eq_error_iff carry here.reached here.carrying, noted, rfl,
      shown, ?_⟩
    · intro row last
      have standing := standsOn_of_handsOut carry reached carrying shown last
      exact ⟨standing, standing.number_eq.trans here.taken_eq⟩
    · intro further last more
      have whole := readsOn_of_handsOut carry reached carrying (shown.append more)
      obtain ⟨arrived, batches, order⟩ := whole.in_order
      rw [batches]
      exact order

/-- The visitor fails on the second of two rows.  The cursor stands on it; the next move fails in
its fetch and leaves the cursor there; the one behind it hands out the third row. -/
theorem visit_refused_at_second_row :
    let columns : Columns := #[.ofType .tiny]
    let row (value : UInt8) := PacketRow.binaryRow [0x00, 0x00, value] columns
    let server : ScriptedServer := { replies := [
      .deliver [[0x00, 0x00, 5], [0x00, 0x00, 6]] none none, .refuse .invalidPacket,
      .deliver [[0x00, 0x00, 7]] (some true) none] }
    let before := (create 7 columns {}, server)
    let visit : PacketRow → Step Nat Unit := fun _ seen =>
      if seen = 1 then .error .resultSetClosed seen else .ok () (seen + 1)
    let stopped := next.after (next.after before)
    let failed := next.after stopped
    RowsCarry ScriptedServer ∧ before.1.Reachable ∧ before.1.Carrying ∧
      (forEach visit).answer (before, 0) = .error .resultSetClosed ∧
      (forEach visit).after (before, 0) = (stopped, 1) ∧
      stopped.1.StandsOn (row 6) ∧ stopped.1.currentRowNumber = 2 ∧
      MoveFails stopped (.fetchFailed 7 .invalidPacket) failed ∧ failed.1 = stopped.1 ∧
      next.answer failed = .ok (some (row 7)) := by
  intro columns row server before visit stopped failed
  have carry : RowsCarry ScriptedServer := ScriptedServer.rowsCarry
  have reached : before.1.Reachable := .created 7 columns {}
  have carrying : before.1.Carrying :=
    carrying_lifetime carry 7 columns {} server [] _ List.mem_cons_self
  obtain ⟨_, _, behind⟩ := visit_is_repeated_next carry reached carrying server
  have handed : HandsOut before [row 5, row 6] stopped :=
    .row (Step.eq_ok_of_answer (by decide +kernel))
      (.row (Step.eq_ok_of_answer (by decide +kernel)) (.none _))
  obtain ⟨standing, fails, _⟩ := behind _ stopped handed
  have broken : next.answer stopped = .error (.fetchFailed 7 .invalidPacket) := by decide +kernel
  obtain ⟨onRow, number⟩ := standing (row 6) rfl
  have move : MoveFails stopped (.fetchFailed 7 .invalidPacket) failed :=
    (fails _ _).mp (Step.eq_error_of_answer broken)
  refine ⟨carry, reached, carrying, ?_, ?_, onRow, number, move, ?_, ?_⟩
  all_goals decide +kernel

end

end RowCursor.ResultCursor
