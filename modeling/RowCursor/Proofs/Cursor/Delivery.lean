import RowCursor.Proofs.Cursor.Progress

/-!
# Nothing is lost, repeated or reordered

Along every run of a cursor, over any session whose rows carry their metadata, the rows
that were handed out are a prefix of the batches that arrived.  `Progress.Sound` says
what is between: the rows of the current batch that were not passed yet.
-/

set_option autoImplicit false

namespace RowCursor.Progress

open ResultCursor

variable {σ : Type} {columns : Columns} {options : CursorOptions}
  {progress : Progress (Recorded σ)}

/-- The rows of the current batch that were not passed yet. -/
def waiting (progress : Progress (Recorded σ)) : List PacketRow :=
  (progress.cursor.batch.getD #[]).toList.drop progress.cursor.batchTaken

/-- The cursor, the rows that were handed out and the record of the session go together. -/
structure Sound (columns : Columns) (options : CursorOptions)
    (progress : Progress (Recorded σ)) : Prop where
  regular : progress.cursor.Regular
  opened : progress.cursor.columns = some columns
  options_eq : progress.cursor.options = options
  taken_eq : progress.cursor.taken = progress.handed.length
  delivered : progress.handed ++ progress.waiting = progress.session.batches.flatten
  carries : ∀ row ∈ progress.cursor.batch.getD #[], row.Carries columns
  length_le : ∀ limit, options.maxRows = some limit → progress.handed.length ≤ limit
  of_ended : progress.ended = true → progress.cursor.hasNextKnown? = some false
  isAfterLast_iff : progress.cursor.isAfterLast = true ↔
    progress.ended = true ∧ progress.cursor.isEmpty = false

theorem Sound.handed_eq (sound : progress.Sound columns options)
    (needed : progress.cursor.hasNextKnown? = none) :
    progress.handed = progress.session.batches.flatten := by
  have used : progress.waiting = [] := waiting_eq_nil needed
  rw [← sound.delivered, used, List.append_nil]

theorem Sound.not_ended (sound : progress.Sound columns options)
    (going : progress.cursor.hasNextKnown? ≠ some false) : progress.ended = false := by
  cases ended : progress.ended with
  | false => rfl
  | true => exact absurd (sound.of_ended ended) going

theorem Sound.isAfterLast_eq_false (sound : progress.Sound columns options)
    (going : progress.cursor.hasNextKnown? ≠ some false) :
    progress.cursor.isAfterLast = false := by
  cases behind : progress.cursor.isAfterLast with
  | false => rfl
  | true =>
      have ended := (sound.isAfterLast_iff.mp behind).1
      exact absurd (sound.of_ended ended) going

theorem Sound.of_batches_eq (sound : progress.Sound columns options) {after : Recorded σ}
    (same : after.batches = progress.session.batches) :
    Sound columns options { progress with session := after } := by
  refine { sound with delivered := ?_ }
  rw [same]
  exact sound.delivered

theorem sound_start (statementId : UInt32) (columns : Columns) (options : CursorOptions)
    (session : σ) :
    Sound columns options (start statementId columns options (Recorded.ofSession session)) := by
  refine {
    regular := regular_create statementId columns options
    opened := rfl
    options_eq := rfl
    taken_eq := rfl
    delivered := rfl
    carries := ?_
    length_le := fun _ _ => Nat.zero_le _
    of_ended := ?_
    isAfterLast_iff := ?_ }
  · simp [start, create]
  · intro ended
    cases ended
  · simp [start, create]

/-! ## The end and the next row -/

theorem Sound.finish (sound : progress.Sound columns options)
    (finished : progress.cursor.hasNextKnown? = some false) :
    Sound columns options
      { progress with cursor := progress.cursor.finish, ended := true } := by
  refine { sound with
    regular := sound.regular.finish
    of_ended := fun _ => finished
    isAfterLast_iff := ?_ }
  have before := sound.isAfterLast_iff
  simp only [ResultCursor.finish]
  cases behind : progress.cursor.isAfterLast with
  | false => simp
  | true =>
      have full := (before.mp behind).2
      simp [full]

/-- The row behind the current one is there, and it takes the metadata as it is. -/
theorem Sound.batchRow_eq (sound : progress.Sound columns options)
    (more : progress.cursor.hasNextKnown? = some true) :
    ∃ row, progress.cursor.batchRow progress.cursor.batchTaken = .ok row ∧
      progress.waiting = row :: progress.cursor.advance.waiting := by
  obtain ⟨_, batch, present, room⟩ := of_hasNextKnown?_eq_true more
  have here := Array.getElem?_eq_getElem room
  have carries := sound.carries batch[progress.cursor.batchTaken]
    (by rw [present]; exact Array.getElem_mem room)
  refine ⟨batch[progress.cursor.batchTaken], ?_, waiting_advance present here⟩
  rw [batchRow_of_present sound.opened present here]
  exact PacketRow.setColumns_of_carries carries

theorem Sound.advance (sound : progress.Sound columns options)
    (more : progress.cursor.hasNextKnown? = some true) {row : PacketRow}
    (found : progress.cursor.batchRow progress.cursor.batchTaken = .ok row) :
    Sound columns options { progress with
      cursor := progress.cursor.advance, handed := progress.handed ++ [row] } := by
  obtain ⟨unlimited, batch, present, room⟩ := of_hasNextKnown?_eq_true more
  have going : progress.cursor.hasNextKnown? ≠ some false := by
    simp [more]
  have ended := sound.not_ended going
  have behind := sound.isAfterLast_eq_false going
  refine {
    regular := sound.regular.advance present room
    opened := sound.opened
    options_eq := sound.options_eq
    taken_eq := ?_
    delivered := ?_
    carries := sound.carries
    length_le := ?_
    of_ended := ?_
    isAfterLast_iff := ?_ }
  · simp only [ResultCursor.advance, sound.taken_eq, List.length_append, List.length_singleton]
  · obtain ⟨first, same, begins⟩ := sound.batchRow_eq more
    rw [found] at same
    cases same
    -- The row moves from those that wait to those that were handed out.
    rw [← sound.delivered, begins, ← List.append_cons]
    rfl
  · intro limit limited
    have below : progress.handed.length < limit := by
      simpa [maxRowsReached, sound.options_eq, limited, sound.taken_eq] using unlimited
    rw [List.length_append]
    exact below
  · intro finished
    rw [ended] at finished
    cases finished
  · simp [ResultCursor.advance, ended, behind]

theorem Sound.currentRowNumber_eq (sound : progress.Sound columns options) :
    progress.cursor.currentRowNumber = if progress.ended then 0 else progress.handed.length := by
  have reading := isClosed_eq_false sound.opened
  cases behind : progress.cursor.isAfterLast with
  | true =>
      have ended := (sound.isAfterLast_iff.mp behind).1
      simp [currentRowNumber, behind, ended]
  | false =>
      have same : progress.cursor.currentRowNumber = progress.cursor.taken := by
        simp [currentRowNumber, behind, reading]
      rw [same]
      cases ended : progress.ended with
      | false => exact sound.taken_eq
      | true =>
          -- Past the end without a mark, the result was empty.
          have full : progress.cursor.isEmpty = true := by
            cases full : progress.cursor.isEmpty with
            | true => rfl
            | false =>
                have marked := sound.isAfterLast_iff.mpr ⟨ended, full⟩
                rw [behind] at marked
                cases marked
          exact (sound.regular.of_isEmpty full).2

/-! ## Asking -/

section

variable [RowSession σ]

theorem Sound.withBatch (carry : RowsCarry σ) (sound : progress.Sound columns options)
    (needed : progress.cursor.hasNextKnown? = none) {batch : Array PacketRow}
    {after : Recorded σ}
    (fetched : progress.cursor.fetchBatch columns progress.session = .ok batch after)
    (last : Bool) :
    Sound columns options
      { progress with cursor := progress.cursor.withBatch batch last, session := after } := by
  have going : progress.cursor.hasNextKnown? ≠ some false := by
    simp [needed]
  have ended := sound.not_ended going
  have behind := sound.isAfterLast_eq_false going
  refine {
    regular := sound.regular.withBatch needed batch last
    opened := sound.opened
    options_eq := sound.options_eq
    taken_eq := sound.taken_eq
    delivered := ?_
    carries := fetchBatch_carries carry.recorded fetched
    length_le := sound.length_le
    of_ended := ?_
    isAfterLast_iff := ?_ }
  · -- Nothing was waiting, so all that waits now is the new batch.
    have arrived := (fetchBatch_record fetched).2
    simp only [waiting, ResultCursor.withBatch, Option.getD_some, List.drop_zero]
    rw [arrived, List.flatten_append, ← sound.handed_eq needed, List.flatten_singleton]
  · intro finished
    rw [ended] at finished
    cases finished
  · simp [ResultCursor.withBatch, ended, behind]

theorem Sound.hasNext (carry : RowsCarry σ) (sound : progress.Sound columns options) :
    progress.hasNext.Sound columns options := by
  cases hasNext_move sound.regular sound.opened with
  | known answer known same =>
      rw [same]
      exact sound
  | fetched batch after needed fetched same =>
      rw [same]
      exact sound.withBatch carry needed fetched _
  | failed error after needed failed same =>
      rw [same]
      exact sound.of_batches_eq (fetchBatch_record_of_error failed).2

/-! ## Moving -/

/-- What `next` does to a consumer's progress. -/
inductive NextMove (columns : Columns) (progress : Progress (Recorded σ)) : Prop where
  | failed (error : Error) (after : Recorded σ) (needed : progress.cursor.hasNextKnown? = none)
      (failed : progress.cursor.fetchBatch columns progress.session = .error error after)
      (moved : ResultCursor.next (progress.cursor, progress.session) =
        .error (.fetchFailed progress.cursor.statementId error) (progress.cursor, after))
      (same : progress.next = { progress with session := after })
  | ended (finished : progress.hasNext.cursor.hasNextKnown? = some false)
      (moved : ResultCursor.next (progress.cursor, progress.session) =
        .ok none (progress.hasNext.cursor.finish, progress.hasNext.session))
      (same : progress.next =
        { progress.hasNext with cursor := progress.hasNext.cursor.finish, ended := true })
  | handed (row : PacketRow) (more : progress.hasNext.cursor.hasNextKnown? = some true)
      (found : progress.hasNext.cursor.batchRow progress.hasNext.cursor.batchTaken = .ok row)
      (moved : ResultCursor.next (progress.cursor, progress.session) =
        .ok (some row) (progress.hasNext.cursor.advance, progress.hasNext.session))
      (same : progress.next = { progress.hasNext with
        cursor := progress.hasNext.cursor.advance
        handed := progress.hasNext.handed ++ [row] })

theorem Sound.next_move (carry : RowsCarry σ) (sound : progress.Sound columns options) :
    NextMove columns progress := by
  have outcome := next_outcome sound.regular sound.opened progress.session
  have behind := sound.hasNext carry
  cases moved : ResultCursor.next (progress.cursor, progress.session) with
  | error error state =>
      rw [moved] at outcome
      cases outcome with
      | failed source after needed failed =>
          exact .failed source after needed failed moved (by simp only [Progress.next, moved])
      | refused later after error asked found =>
          -- The row that was told of is there and takes the metadata.
          have more := hasNextKnown?_of_hasNext sound.regular sound.opened asked
          rw [hasNext_of_ok asked] at behind
          obtain ⟨row, given, _⟩ := behind.batchRow_eq more
          rw [given] at found
          cases found
  | ok row state =>
      rw [moved] at outcome
      cases outcome with
      | ended later after asked =>
          have finished := hasNextKnown?_of_hasNext sound.regular sound.opened asked
          have same := hasNext_of_ok asked
          refine .ended ?_ ?_ ?_
          · rw [same]
            exact finished
          · rw [same]
            exact moved
          · simp only [Progress.next, moved, same]
      | handed later after row asked found =>
          have more := hasNextKnown?_of_hasNext sound.regular sound.opened asked
          have same := hasNext_of_ok asked
          refine .handed row ?_ ?_ ?_ ?_
          · rw [same]
            exact more
          · rw [same]
            exact found
          · rw [same]
            exact moved
          · simp only [Progress.next, moved, same]

theorem Sound.next (carry : RowsCarry σ) (sound : progress.Sound columns options) :
    progress.next.Sound columns options := by
  have behind := sound.hasNext carry
  cases sound.next_move carry with
  | failed error after needed failed moved same =>
      rw [same]
      exact sound.of_batches_eq (fetchBatch_record_of_error failed).2
  | ended finished moved same =>
      rw [same]
      exact behind.finish finished
  | handed row more found moved same =>
      rw [same]
      exact behind.advance more found

theorem Sound.next_ne_missingBatchRow (carry : RowsCarry σ)
    (sound : progress.Sound columns options) (index : Nat) (state : ResultCursor × Recorded σ) :
    ResultCursor.next (progress.cursor, progress.session) ≠
      .error (.libraryBug (.missingBatchRow index)) state := by
  intro broken
  cases sound.next_move carry with
  | failed error after needed failed moved same =>
      rw [moved] at broken
      cases broken
  | ended finished moved same =>
      rw [moved] at broken
      cases broken
  | handed row more found moved same =>
      rw [moved] at broken
      cases broken

/-! ## What a move sends -/

/-- Nothing was sent, or one command after every row that arrived was handed out. -/
def SendsWhenDrained (before after : Progress (Recorded σ)) : Prop :=
  after.session.commands = before.session.commands ∨
    (∃ command, after.session.commands = before.session.commands ++ [command]) ∧
      before.handed = before.session.batches.flatten

/-- A question sends nothing, or the command of the fetch that it needs. -/
theorem Sound.commands_hasNext (sound : progress.Sound columns options) :
    progress.hasNext.session.commands = progress.session.commands ∨
      progress.cursor.hasNextKnown? = none ∧ progress.hasNext.session.commands =
        progress.session.commands ++ [progress.cursor.fetchCommand] := by
  cases known : progress.cursor.hasNextKnown? with
  | some answer =>
      left
      rw [hasNext_of_ok (ResultCursor.hasNext_of_known known)]
  | none =>
      right
      exact ⟨rfl, ResultCursor.commands_hasNext sound.regular sound.opened known _⟩

theorem Sound.session_next (sound : progress.Sound columns options) :
    progress.next.session = progress.hasNext.session :=
  (congrArg Prod.snd progress.next_state).trans
    (ResultCursor.session_next sound.opened progress.session)

theorem Sound.sends_hasNext (sound : progress.Sound columns options) :
    SendsWhenDrained progress progress.hasNext := by
  rcases sound.commands_hasNext with silent | ⟨needed, sent⟩
  · exact .inl silent
  · exact .inr ⟨⟨_, sent⟩, sound.handed_eq needed⟩

theorem Sound.sends_next (sound : progress.Sound columns options) :
    SendsWhenDrained progress progress.next := by
  rw [SendsWhenDrained, sound.session_next]
  exact sound.sends_hasNext

/-! ## Along a run -/

theorem Sound.of_moves (carry : RowsCarry σ) {after : Progress (Recorded σ)}
    (moves : Moves progress after) (sound : progress.Sound columns options) :
    after.Sound columns options := by
  cases moves with
  | stays => exact sound
  | hasNext => exact sound.hasNext carry
  | next => exact sound.next carry

theorem Sound.sends {after : Progress (Recorded σ)} (sound : progress.Sound columns options)
    (moves : Moves progress after) : SendsWhenDrained progress after := by
  cases moves with
  | stays => exact .inl rfl
  | hasNext => exact sound.sends_hasNext
  | next => exact sound.sends_next

/-- Whatever the session does and whatever is called: the record does not change the
run; every move sends at most one command, and only if every row that arrived was handed
out; and at every moment the rows that were handed out are a prefix of the batches that
arrived, no more than the limit, and counted by the row number until the end is told. -/
theorem trail_delivers_in_order (carry : RowsCarry σ) (statementId : UInt32)
    (columns : Columns) (options : CursorOptions) (session : σ) (calls : List CursorCall) :
    let run := (start statementId columns options (Recorded.ofSession session)).trail calls
    run.map withoutRecord = (start statementId columns options session).trail calls ∧
    run.IsChain SendsWhenDrained ∧
    ∀ moment ∈ run,
      moment.handed <+: moment.session.batches.flatten ∧
      (∀ limit, options.maxRows = some limit → moment.handed.length ≤ limit) ∧
      moment.cursor.currentRowNumber = (if moment.ended then 0 else moment.handed.length) ∧
      ∀ (index : Nat) (state : ResultCursor × Recorded σ),
        ResultCursor.next (moment.cursor, moment.session) ≠
          .error (.libraryBug (.missingBatchRow index)) state := by
  intro run
  have sound : ∀ moment ∈ run, Sound columns options moment := by
    refine forall_mem_trail (sound_start statementId columns options session) ?_ calls
    intro before after moves sound
    exact sound.of_moves carry moves
  refine ⟨withoutRecord_trail _ calls, ?_, ?_⟩
  · refine (isChain_trail _ calls).imp_of_mem_imp ?_
    intro before after member _ moves
    exact (sound before member).sends moves
  · intro moment member
    have here := sound moment member
    refine ⟨⟨moment.waiting, here.delivered⟩, here.length_le, here.currentRowNumber_eq, ?_⟩
    intro index state
    exact here.next_ne_missingBatchRow carry index state

/-- A server that refuses the second command and delivers more rows than it is asked for. -/
theorem scripted_trail_delivers_in_order :
    let row : Bytes := [0x00, 0x00]
    let server : ScriptedServer := { replies := [.deliver [row, row, row] none none,
      .refuse .invalidPacket, .deliver [row] (some true) none] }
    let calls : List CursorCall := [.next, .hasNext, .forEach (fun _ => pure ()) () 5, .next,
      .hasNext, .next, .next]
    RowsCarry ScriptedServer ∧
      ∀ moment ∈ (start 7 #[] { maxRows := some 4 } (Recorded.ofSession server)).trail calls,
        moment.handed <+: moment.session.batches.flatten ∧
        ∀ limit, some 4 = some limit → moment.handed.length ≤ limit := by
  intro row server calls
  refine ⟨ScriptedServer.rowsCarry, ?_⟩
  intro moment member
  have delivers := trail_delivers_in_order ScriptedServer.rowsCarry 7 #[] { maxRows := some 4 }
    server calls
  obtain ⟨ordered, limited, _⟩ := delivers.2.2 moment member
  exact ⟨ordered, limited⟩

end

end RowCursor.Progress
