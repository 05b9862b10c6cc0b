import Mathlib.Logic.Function.Iterate
import RowCursor.Proofs.Cursor.Paging

/-!
# Draining a paging server

A consumer that calls `next` until no row is left, again after every failed fetch, ends:
every call hands out a row or uses up an ordinal at which the server fails.  It is then
handed exactly the rows that the options admit, and no fetch was made in vain.
-/

set_option autoImplicit false

namespace RowCursor

section

variable {σ : Type} [RowSession σ]

/-- Call `next` until it answers that no row is left, again after every row and after
every failed fetch.  Any other failure, and more calls than these, have no result. -/
def Progress.drain : (calls : Nat) → Progress σ → Option (Progress σ)
  | 0, _ => none
  | calls + 1, progress =>
    match ResultCursor.next (progress.cursor, progress.session) with
    | .ok none _ => some progress.next
    | .ok (some _) _ => progress.next.drain calls
    | .error (.fetchFailed _ _) _ => progress.next.drain calls
    | .error _ _ => none

theorem Progress.withoutRecord_drain (calls : Nat) (progress : Progress (Recorded σ)) :
    (progress.drain calls).map withoutRecord = progress.withoutRecord.drain calls := by
  induction calls generalizing progress with
  | zero => rfl
  | succ calls ih =>
      have plain : Step.mapState ResultCursor.withoutRecord
          (ResultCursor.next (progress.cursor, progress.session)) = ResultCursor.next
            (progress.withoutRecord.cursor, progress.withoutRecord.session) :=
        ResultCursor.withoutRecord_next (progress.cursor, progress.session)
      have later := ih progress.next
      rw [withoutRecord_next] at later
      rw [drain, drain, ← plain]
      cases ResultCursor.next (progress.cursor, progress.session) with
      | ok row state =>
          cases row with
          | none => exact congrArg some (withoutRecord_next progress)
          | some row => exact later
      | error error state =>
          cases error with
          | fetchFailed statementId source => exact later
          | _ => rfl

theorem Progress.withoutRecord_iterate_next (calls : Nat) (progress : Progress (Recorded σ)) :
    (Progress.next^[calls] progress).withoutRecord = Progress.next^[calls] progress.withoutRecord := by
  induction calls generalizing progress with
  | zero => rfl
  | succ calls ih =>
      rw [Function.iterate_succ_apply, Function.iterate_succ_apply, ih, withoutRecord_next]

end

namespace Paging

variable {paging : Paging} {progress : Progress (Recorded PagingServer)}

/-! ## How many calls are left -/

/-- The rows that were not handed out, and the ordinals at which the server will fail. -/
def callsLeft (paging : Paging) (progress : Progress (Recorded PagingServer)) : Nat :=
  (paging.rows.length - progress.handed.length) +
    paging.failing.countP fun ordinal => progress.session.session.ordinal ≤ ordinal

theorem countP_le_eq (ordinals : List Nat) (ordinal : Nat) :
    ordinals.countP (fun other => ordinal ≤ other) =
      ordinals.countP (fun other => ordinal + 1 ≤ other) + ordinals.count ordinal := by
  induction ordinals with
  | nil => rfl
  | cons first ordinals ih =>
      rw [List.countP_cons, List.countP_cons, List.count_cons, ih]
      -- Only the ordinal itself is counted on one side alone.
      by_cases same : first = ordinal
      · have finished : ¬ordinal + 1 ≤ ordinal := Nat.not_succ_le_self ordinal
        simp [same, finished]
        omega
      · have apart : (ordinal ≤ first) = (ordinal + 1 ≤ first) := by
          apply propext
          omega
        simp [same, apart]
        omega

theorem Kept.ordinal_le_hasNext (kept : paging.Kept progress) :
    progress.session.session.ordinal ≤ progress.hasNext.session.session.ordinal := by
  cases Progress.hasNext_move kept.sound.regular kept.sound.opened with
  | known answer known same => rw [same]
  | fetched batch after needed fetched same =>
      obtain ⟨_, _, _, _, _, behind⟩ := kept.served.fetched fetched
      rw [same]
      simp only [behind, PagingServer.served]
      exact Nat.le_succ _
  | failed error after needed failed same =>
      obtain ⟨_, _, behind⟩ := kept.served.of_failed failed
      rw [same]
      simp only [behind]
      exact Nat.le_succ _

theorem Kept.callsLeft_of_failed (kept : paging.Kept progress) {error : Error}
    {after : Recorded PagingServer}
    (failed : progress.cursor.fetchBatch paging.columns progress.session = .error error after) :
    paging.callsLeft { progress with session := after } < paging.callsLeft progress := by
  obtain ⟨_, fails, behind⟩ := kept.served.of_failed failed
  have once := List.count_pos_iff.mpr fails
  simp only [callsLeft, behind]
  rw [countP_le_eq paging.failing progress.session.session.ordinal]
  omega

theorem Kept.callsLeft_of_handed (kept : paging.Kept progress)
    {later : Progress (Recorded PagingServer)} (behind : paging.Kept later) {row : PacketRow}
    (handed : later.handed = progress.handed ++ [row])
    (asked : later.session = progress.hasNext.session) :
    paging.callsLeft later < paging.callsLeft progress := by
  have front := behind.handed_prefix.length_le
  have further := kept.ordinal_le_hasNext
  have fewer : (paging.failing.countP fun ordinal =>
      progress.hasNext.session.session.ordinal ≤ ordinal) ≤
        paging.failing.countP fun ordinal => progress.session.session.ordinal ≤ ordinal := by
    apply List.countP_mono_left
    intro ordinal _ le
    simp only [decide_eq_true_eq] at le ⊢
    omega
  rw [handed, List.length_append, List.length_singleton] at front
  rw [callsLeft, callsLeft, handed, asked, List.length_append, List.length_singleton]
  omega

/-! ## What is asked for -/

theorem Kept.fetchCommand_eq (kept : paging.Kept progress)
    (needed : progress.cursor.hasNextKnown? = none) :
    ∃ count : UInt32, count.toNat = paging.options.fetchCount progress.handed.length ∧
      progress.cursor.fetchCommand = (Command.fetch paging.statementId count).encode := by
  have sound := kept.sound
  have unlimited := (ResultCursor.of_hasNextKnown?_eq_none needed).1
  have asked := (toNat_rowsToRequest sound.options_eq unlimited).1
  rw [sound.taken_eq] at asked
  refine ⟨progress.cursor.rowsToRequest, asked, ?_⟩
  rw [ResultCursor.fetchCommand, kept.statementId_eq]

/-- At most one command is added, and it asks for what is still admitted. -/
def AsksForRest (paging : Paging) (before after : Progress (Recorded PagingServer)) : Prop :=
  after.session.commands = before.session.commands ∨
    ∃ count : UInt32, count.toNat = paging.options.fetchCount before.handed.length ∧
      after.session.commands =
        before.session.commands ++ [(Command.fetch paging.statementId count).encode]

theorem Kept.asks_next (kept : paging.Kept progress) :
    paging.AsksForRest progress progress.next := by
  rw [AsksForRest, kept.sound.session_next]
  rcases kept.sound.commands_hasNext with silent | ⟨needed, sent⟩
  · exact .inl silent
  · obtain ⟨count, asked, command⟩ := kept.fetchCommand_eq needed
    rw [command] at sent
    exact .inr ⟨count, asked, sent⟩

/-! ## The whole run -/

theorem Kept.iterate_next (kept : paging.Kept progress) (calls : Nat) :
    paging.Kept (Progress.next^[calls] progress) := by
  induction calls generalizing progress with
  | zero => exact kept
  | succ calls ih =>
      rw [Function.iterate_succ_apply]
      exact ih kept.next

theorem Kept.drain_eq (kept : paging.Kept progress) {calls : Nat}
    (enough : paging.callsLeft progress < calls) :
    ∃ passed < calls, progress.drain (passed + 1) = some (Progress.next^[passed + 1] progress) ∧
      (Progress.next^[passed + 1] progress).cursor.hasNextKnown? = some false := by
  -- Every call that is not the last one lowers the count of calls that are left.
  induction calls generalizing progress with
  | zero => omega
  | succ calls ih =>
      cases kept.sound.next_move PagingServer.rowsCarry with
      | failed error after needed failed moved same =>
          have fewer := kept.callsLeft_of_failed failed
          rw [← same] at fewer
          obtain ⟨passed, below, drained, finished⟩ := ih kept.next (by omega)
          refine ⟨passed + 1, by omega, ?_, ?_⟩
          · rw [Progress.drain, moved]
            exact drained
          · exact finished
      | ended finished moved same =>
          refine ⟨0, by omega, ?_, ?_⟩
          · rw [Progress.drain, moved]
            rfl
          · rw [Nat.zero_add, Function.iterate_one, same]
            exact finished
      | handed row more found moved same =>
          have grown : progress.next.handed = progress.handed ++ [row] :=
            congrArg Progress.handed same
          have asked : progress.next.session = progress.hasNext.session := by rw [same]
          have fewer := kept.callsLeft_of_handed kept.next grown asked
          obtain ⟨passed, below, drained, finished⟩ := ih kept.next (by omega)
          refine ⟨passed + 1, by omega, ?_, ?_⟩
          · rw [Progress.drain, moved]
            exact drained
          · exact finished

end Paging

/-- Over a paging server with well-formed rows, whichever commands fail, a consumer that
calls `next` to the end, again after every failed fetch, is handed the admitted rows in
order.  If the server announces its last row, no fetch succeeds that is not needed.  Each
command names the cursor's statement and asks for what is still admitted of a batch. -/
theorem drain_delivers_limited (statementId : UInt32) (columns : Columns)
    (options : CursorOptions) (size_pos : 1 ≤ options.rowsPerFetch.toNat)
    (packets : List Bytes) (rows : List PacketRow)
    (reads : packets.map (fun packet => PacketRow.ofPacketWith? packet .binary columns) =
      rows.map .ok)
    (failing : List Nat) (withholdLast : Bool) :
    let size := options.rowsPerFetch.toNat
    let server : PagingServer := { pending := packets, failing, withholdLast }
    let consumer := Progress.start statementId columns options server
    let recorded := Progress.start statementId columns options (Recorded.ofSession server)
    (∃ calls ≤ rows.length + failing.length,
      let final := Progress.next^[calls + 1] consumer
      consumer.drain (calls + 1) = some final ∧
      final.handed = options.limited rows ∧
      (withholdLast = false → options.maxRows ≠ some 0 →
        final.session.delivery.commands.length =
          max 1 (((options.limited rows).length + size - 1) / size))) ∧
    ∀ calls,
      let before := Progress.next^[calls] recorded
      before.withoutRecord = Progress.next^[calls] consumer ∧
      (before.next.session.commands = before.session.commands ∨
        ∃ count : UInt32, count.toNat = options.fetchCount before.handed.length ∧
          before.next.session.commands =
            before.session.commands ++ [(Command.fetch statementId count).encode]) := by
  intro size server consumer recorded
  let paging : Paging :=
    { statementId, columns, options, packets, rows, failing, withholdLast, size_pos, reads }
  have kept : paging.Kept recorded := paging.kept_consumer
  refine ⟨?_, ?_⟩
  · have enough : paging.callsLeft recorded < rows.length + failing.length + 1 := by
      have fails : (failing.countP fun ordinal => 0 ≤ ordinal) ≤ failing.length :=
        List.countP_le_length
      exact Nat.lt_succ_of_le (Nat.add_le_add_left fails rows.length)
    obtain ⟨calls, below, drained, finished⟩ := kept.drain_eq enough
    have final := kept.iterate_next (calls + 1)
    have drains := Progress.withoutRecord_drain (calls + 1) recorded
    have plain : (Progress.next^[calls + 1] recorded).withoutRecord =
        Progress.next^[calls + 1] consumer :=
      Progress.withoutRecord_iterate_next (calls + 1) recorded
    rw [drained, Option.map_some, plain] at drains
    refine ⟨calls, Nat.le_of_lt_succ below, drains.symm, ?_, ?_⟩
    · have wanted := final.handed_eq_wanted finished
      have same := congrArg Progress.handed plain
      exact same.symm.trans wanted
    · intro announced some_
      have answered := final.answered_eq finished announced some_
      have same := congrArg Progress.session plain
      rw [← congrArg (fun session => session.delivery.commands.length) same]
      exact answered
  · intro calls
    exact ⟨Progress.withoutRecord_iterate_next calls recorded,
      (kept.iterate_next calls).asks_next⟩

/-- Three of four rows in batches of two; the second command fails on the way. -/
theorem three_rows_drained_after_failed_fetch :
    let columns : Columns := #[.ofType .tiny]
    let options : CursorOptions := { fetchSize := .rows 2, maxRows := some 3 }
    let row (body : Bytes) (null : Bool) : PacketRow := {
      packet := 0x00 :: body, encoding := .binary, home := 2, found := none,
      columns := some columns, nullFlags := some #[null] }
    let rows := [row [0, 7] false, row [4] true, row [0, 9] false, row [0, 7] false]
    let server : PagingServer := { pending := rows.map PacketRow.packet, failing := [1] }
    1 ≤ options.rowsPerFetch.toNat ∧
      (rows.map PacketRow.packet).map
          (fun packet => PacketRow.ofPacketWith? packet .binary columns) = rows.map .ok ∧
      ∃ calls ≤ 5,
        let final := Progress.next^[calls + 1] (Progress.start 7 columns options server)
        final.handed = [row [0, 7] false, row [4] true, row [0, 9] false] ∧
          final.session.delivery.commands.length = 2 := by
  intro columns options row rows server
  have size_pos : 1 ≤ options.rowsPerFetch.toNat := by decide
  have reads : (rows.map PacketRow.packet).map
      (fun packet => PacketRow.ofPacketWith? packet .binary columns) = rows.map .ok := by
    decide +kernel
  obtain ⟨⟨calls, few, _, handed, answered⟩, _⟩ :=
    drain_delivers_limited 7 columns options size_pos _ rows reads [1] false
  exact ⟨size_pos, reads, calls, few, handed, (answered rfl (by decide)).trans (by decide +kernel)⟩

end RowCursor
