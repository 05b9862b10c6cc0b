import RowCursor.Proofs.Cursor.FailedFetch
import RowCursor.Proofs.Cursor.Finality
import RowCursor.Proofs.Cursor.Paging

/-!
# What a cursor asks for

All that a cursor sends are fetch commands for its statement.  None asks for more rows than
one batch holds, or than are left up to the limit (`ResultCursor.rowsToRequest_within`).  A
fetch for no row at all is sent exactly if the options ask for none and no limit below 32 bits
is in sight: only with such a limit the count is raised to one.
-/

set_option autoImplicit false

namespace RowCursor

namespace ResultCursor

section

variable {cursor : ResultCursor}

/-! ## How many rows one fetch asks for -/

/-- Where the options ask for no rows, a limit near enough makes it one. -/
theorem rowsToRequest_of_none (nothing : cursor.options.rowsPerFetch = 0) :
    cursor.rowsToRequest = match cursor.options.maxRows with
      | some limit => if limit - cursor.taken < UInt32.size then 1 else 0
      | none => 0 := by
  unfold rowsToRequest
  rw [nothing]
  cases cursor.options.maxRows with
  | none => rfl
  | some limit =>
      simp only
      split
      · apply UInt32.toNat_inj.mp
        rw [toNat_max, toNat_min]
        simp
      · rfl

theorem rowsToRequest_within (unlimited : cursor.maxRowsReached = false) :
    cursor.rowsToRequest.toNat ≤ max 1 cursor.options.rowsPerFetch.toNat ∧
      (∀ limit, cursor.options.maxRows = some limit →
        cursor.taken + cursor.rowsToRequest.toNat ≤ limit) ∧
      (cursor.rowsToRequest = 0 ↔ cursor.options.rowsPerFetch = 0 ∧
        ∀ limit, cursor.options.maxRows = some limit → cursor.taken + UInt32.size ≤ limit) := by
  have below := taken_lt_of_maxRowsReached unlimited
  by_cases nothing : cursor.options.rowsPerFetch = 0
  · have asked := rowsToRequest_of_none nothing
    cases bounded : cursor.options.maxRows with
    | none =>
        rw [bounded] at asked
        simp [asked, nothing]
    | some limit =>
        rw [bounded] at asked
        have room := below limit bounded
        by_cases near : limit - cursor.taken < UInt32.size
        · have one : cursor.rowsToRequest = 1 := asked.trans (if_pos near)
          rw [one, nothing]
          refine ⟨by decide, ?_, ?_⟩
          · rintro _ ⟨⟩
            exact room
          · constructor
            · intro zero
              exact absurd zero (by decide)
            · rintro ⟨_, far⟩
              have behind := far limit rfl
              omega
        · have zero : cursor.rowsToRequest = 0 := asked.trans (if_neg near)
          rw [zero, nothing]
          refine ⟨by decide, ?_, ?_⟩
          · rintro _ ⟨⟩
            exact Nat.le_of_lt room
          · refine ⟨fun _ => ⟨rfl, ?_⟩, fun _ => rfl⟩
            rintro _ ⟨⟩
            omega
  · have paged : 1 ≤ cursor.options.rowsPerFetch.toNat := by
      have positive : cursor.options.rowsPerFetch.toNat ≠ 0 := fun zero =>
        nothing (UInt32.toNat_inj.mp zero)
      omega
    obtain ⟨count, least⟩ := toNat_rowsToRequest paged unlimited
    have asks : cursor.rowsToRequest ≠ 0 := by
      intro zero
      rw [zero] at least
      exact absurd least (by decide)
    unfold CursorOptions.fetchCount at count
    refine ⟨?_, ?_, ?_⟩
    · split at count <;> omega
    · intro limit bounded
      have room := below limit bounded
      rw [bounded] at count
      simp only at count
      omega
    · constructor
      · intro zero
        exact absurd zero asks
      · rintro ⟨zero, _⟩
        exact absurd zero nothing

end

end ResultCursor

namespace Progress

open ResultCursor

/-! ## What no call changes -/

section

variable {σ : Type} {statementId : UInt32} {options : CursorOptions}

/-- The cursor is still that of the statement, with its options, and counts at least the rows
that were handed out. -/
structure Accounted (statementId : UInt32) (options : CursorOptions) (progress : Progress σ) :
    Prop where
  statementId_eq : progress.cursor.statementId = statementId
  options_eq : progress.cursor.options = options
  handed_le : progress.handed.length ≤ progress.cursor.taken

variable [RowSession σ] {progress after : Progress σ}

theorem Accounted.hasNext (accounted : progress.Accounted statementId options) :
    progress.hasNext.Accounted statementId options := by
  cases asked : ResultCursor.hasNext (progress.cursor, progress.session) with
  | error error state =>
      obtain ⟨later, after⟩ := state
      obtain rfl := eq_of_hasNext_error asked
      rw [Progress.hasNext_of_error asked]
      exact { accounted with }
  | ok more state =>
      obtain ⟨later, after⟩ := state
      rw [Progress.hasNext_of_ok asked]
      rcases eq_or_eq_withBatch_of_hasNext asked with rfl | ⟨batch, last, rfl⟩
      · exact { accounted with }
      · exact { accounted with }

theorem next_of_closed (closed : progress.cursor.isClosed = true) :
    progress.hasNext = progress ∧ ∃ ended, progress.next = { progress with ended } := by
  have known : progress.cursor.hasNextKnown? ≠ none := by
    rw [hasNextKnown?_of_closed closed]
    exact Option.some_ne_none false
  refine ⟨hasNext_of_known known, ?_⟩
  cases known_move known with
  | closed _ ended same => exact ⟨ended, same⟩
  | finished opened =>
      rw [closed] at opened
      cases opened
  | advanced opened =>
      rw [closed] at opened
      cases opened

/-- A move talks to the session only by asking. -/
theorem session_next_eq (progress : Progress σ) :
    progress.next.session = progress.hasNext.session := by
  cases closed : progress.cursor.isClosed with
  | true =>
      obtain ⟨asked, ended, moved⟩ := next_of_closed closed
      rw [asked, moved]
  | false =>
      obtain ⟨columns, opened⟩ := exists_columns closed
      exact (congrArg Prod.snd progress.next_state).trans
        (ResultCursor.session_next opened progress.session)

theorem Accounted.next (accounted : progress.Accounted statementId options) :
    progress.next.Accounted statementId options := by
  have behind := accounted.hasNext
  cases closed : progress.cursor.isClosed with
  | true =>
      obtain ⟨_, ended, moved⟩ := next_of_closed closed
      rw [moved]
      exact { accounted with }
  | false =>
      obtain ⟨columns, opened⟩ := exists_columns closed
      cases asked : ResultCursor.hasNext (progress.cursor, progress.session) with
      | error error state =>
          rw [Progress.hasNext_of_error asked] at behind
          simp only [Progress.next, next_of_failed opened asked]
          exact { behind with }
      | ok more state =>
          obtain ⟨later, after⟩ := state
          rw [Progress.hasNext_of_ok asked] at behind
          obtain ⟨statement, same, counted⟩ := behind
          cases more with
          | false =>
              simp only [Progress.next, next_of_end opened asked]
              exact ⟨statement, same, counted⟩
          | true =>
              simp only [Progress.next, next_of_more opened asked]
              -- The row is counted even if it is refused, but only handed out if not.
              cases later.batchRow later.batchTaken with
              | ok row =>
                  refine ⟨statement, same, ?_⟩
                  rw [List.length_append]
                  exact Nat.succ_le_succ counted
              | error error => exact ⟨statement, same, Nat.le_succ_of_le counted⟩

theorem accounted_lifetime (statementId : UInt32) (columns : Columns) (options : CursorOptions)
    (session : σ) (calls : List OwnerCall) :
    ∀ moment ∈ (start statementId columns options session).lifetime calls,
      moment.Accounted statementId options := by
  refine forall_mem_lifetime ⟨rfl, rfl, Nat.le_refl 0⟩ ?_ ?_ calls
  · intro before after moves accounted
    cases moves with
    | stays => exact accounted
    | hasNext => exact accounted.hasNext
    | next => exact accounted.next
  · intro before accounted
    exact { accounted with }

end

/-! ## What is sent -/

section

variable {σ : Type} [RowSession σ] {statementId : UInt32} {options : CursorOptions}
  {before after : Progress (Recorded σ)}

/-- Nothing was sent, or one fetch command for rows of the statement: for no more than one
batch or one row, and no more than are left up to the limit.  It asks for no row exactly if the
options ask for none and the limit, if there is one, is far. -/
def AsksWithin (statementId : UInt32) (options : CursorOptions)
    (before after : Progress (Recorded σ)) : Prop :=
  after.session.commands = before.session.commands ∨
    ∃ count : UInt32,
      after.session.commands = before.session.commands ++
        [0x1C :: (littleEndian 4 statementId.toNat ++ littleEndian 4 count.toNat)] ∧
      count.toNat ≤ max 1 options.rowsPerFetch.toNat ∧
      (∀ limit, options.maxRows = some limit → before.handed.length + count.toNat ≤ limit) ∧
      (count = 0 ↔ options.rowsPerFetch = 0 ∧
        ∀ limit, options.maxRows = some limit → before.cursor.taken + UInt32.size ≤ limit)

omit [RowSession σ] in
theorem asksWithin_of_fetch (accounted : before.Accounted statementId options)
    (unlimited : before.cursor.maxRowsReached = false)
    (sent : after.session.commands = before.session.commands ++ [before.cursor.fetchCommand]) :
    AsksWithin statementId options before after := by
  obtain ⟨statement, same, counted⟩ := accounted
  obtain ⟨most, within, zero⟩ := rowsToRequest_within unlimited
  rw [same] at most within zero
  refine Or.inr ⟨before.cursor.rowsToRequest, ?_, most, ?_, zero⟩
  · rw [sent, fetchCommand, statement]
    rfl
  · intro limit bounded
    have room := within limit bounded
    omega

theorem asksWithin_hasNext (accounted : before.Accounted statementId options)
    (reached : before.cursor.Reachable) :
    AsksWithin statementId options before before.hasNext := by
  cases known : before.cursor.hasNextKnown? with
  | some answer =>
      left
      rw [hasNext_of_ok (ResultCursor.hasNext_of_known known)]
  | none =>
      have going : before.cursor.isClosed = false := by
        rw [← Bool.not_eq_true]
        intro closed
        rw [hasNextKnown?_of_closed closed] at known
        cases known
      obtain ⟨columns, opened⟩ := exists_columns going
      have sent := commands_hasNext (reached.regular opened) opened known before.session
      exact asksWithin_of_fetch accounted (of_hasNextKnown?_eq_none known).1 sent

theorem asksWithin_next (accounted : before.Accounted statementId options)
    (reached : before.cursor.Reachable) :
    AsksWithin statementId options before before.next := by
  have asks := asksWithin_hasNext accounted reached
  unfold AsksWithin at asks ⊢
  rwa [session_next_eq]

/-- Whatever the session does and whatever is called, all that a cursor sends are fetch
commands for its statement, within what the options admit, and the record of what was sent does
not change the run. -/
theorem fetches_ask_within_options (statementId : UInt32) (columns : Columns)
    (options : CursorOptions) (session : σ) (calls : List OwnerCall) :
    let run := (start statementId columns options (Recorded.ofSession session)).lifetime calls
    run.map withoutRecord = (start statementId columns options session).lifetime calls ∧
      run.IsChain (AsksWithin statementId options) := by
  intro run
  refine ⟨withoutRecord_lifetime _ calls, ?_⟩
  refine (isChain_lifetime _ calls).imp_of_mem_imp ?_
  intro before after member _ passes
  have accounted := accounted_lifetime statementId columns options _ calls before member
  have reached := reachable_lifetime statementId columns options _ calls before member
  cases passes with
  | close => exact Or.inl rfl
  | moves moves =>
      cases moves with
      | stays => exact Or.inl rfl
      | hasNext => exact asksWithin_hasNext accounted reached
      | next => exact asksWithin_next accounted reached

end

/-- Asked for no rows, a server sends an empty batch, and the result is over before its row was
fetched.  With the same fetch size and a limit, the row is fetched. -/
theorem no_row_asked_for :
    let server : PagingServer := { pending := [[0x00, 0x00, 5]] }
    let columns : Columns := #[.ofType .tiny]
    let unlimited : Progress (Recorded PagingServer) :=
      start 7 columns { fetchSize := .rows 0 } (Recorded.ofSession server)
    let limited : Progress (Recorded PagingServer) :=
      start 7 columns { fetchSize := .rows 0, maxRows := some 5 } (Recorded.ofSession server)
    unlimited.next.session.commands = [[0x1C, 7, 0, 0, 0, 0, 0, 0, 0]] ∧
      unlimited.next.handed = [] ∧ unlimited.next.ended = true ∧
      unlimited.next.session.session.pending = [[0x00, 0x00, 5]] ∧
      limited.next.session.commands = [[0x1C, 7, 0, 0, 0, 1, 0, 0, 0]] ∧
      limited.next.handed = [PacketRow.binaryRow [0x00, 0x00, 5] columns] := by
  decide +kernel

end Progress

end RowCursor
