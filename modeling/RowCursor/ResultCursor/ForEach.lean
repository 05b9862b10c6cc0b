import RowCursor.ResultCursor

/-!
# Visiting all rows of a cursor

`forEachUpTo` hands a limited count of rows to a visitor, over any session.  Over a
session with a limited supply of rows, `forEach` visits all of them: every row that
is handed out lowers a bound, so a limit above the bound is never reached
(`forEachUpTo_reaches_end`).
-/

set_option autoImplicit false

namespace RowCursor.ResultCursor

section

variable {σ τ : Type} [RowSession σ]

/-- Hand at most `limit` of the remaining rows to `visit`, and tell whether the end of
the result was reached.  The first failure, of a fetch or of `visit`, ends the visit
with the cursor where it stands. -/
def forEachUpTo (visit : PacketRow → Step τ Unit) :
    (limit : Nat) → Step ((ResultCursor × σ) × τ) Bool
  | 0, state => .ok false state
  | limit + 1, (state, visited) =>
    match next state with
    | .error error state => .error error (state, visited)
    | .ok none state => .ok true (state, visited)
    | .ok (some row) state =>
      match visit row visited with
      | .error error visited => .error error (state, visited)
      | .ok () visited => forEachUpTo visit limit (state, visited)

end

section

variable {σ τ : Type} [SuppliedSession σ]

/-- A bound on the rows that are still to be handed out. -/
def rowsBound (state : ResultCursor × σ) : Nat :=
  ((state.1.batch.getD #[]).size - state.1.batchTaken) + SuppliedSession.supply state.2

/-- Hand every remaining row to `visit`.  The visit ends at the end of the result or
by a failure. -/
def forEach (visit : PacketRow → Step τ Unit) : Step ((ResultCursor × σ) × τ) Unit :=
  fun state =>
    match forEachUpTo visit (rowsBound state.1 + 1) state with
    | .ok _ state => .ok () state
    | .error error state => .error error state

/-! ## The bound -/

theorem supply_readBatch (columns : Columns) (rows : Array PacketRow) (before : σ)
    {batch : Array PacketRow} {after : σ}
    (read : RowSession.readBatch columns rows before = .ok batch after) :
    batch.size + SuppliedSession.supply after ≤ rows.size + SuppliedSession.supply before := by
  fun_induction RowSession.readBatch columns rows before with
  | case1 rows before row between received ih =>
      have lower := SuppliedSession.supply_nextRow received
      have later := ih read
      rw [Array.size_push] at later
      omega
  | case2 rows before between received =>
      have lower := SuppliedSession.supply_batchEnd received
      cases read
      omega
  | case3 => simp at read

theorem supply_fetchBatch {cursor : ResultCursor} {columns : Columns} {before after : σ}
    {batch : Array PacketRow} (fetched : cursor.fetchBatch columns before = .ok batch after) :
    batch.size + SuppliedSession.supply after ≤ SuppliedSession.supply before := by
  simp only [fetchBatch, bind, EStateM.bind] at fetched
  split at fetched
  · rename_i between sent
    have lower := SuppliedSession.supply_sendCommand sent
    have later := supply_readBatch columns #[] between fetched
    rw [Array.size_empty] at later
    omega
  · simp at fetched

theorem rowsBound_fetchMore {cursor fresh : ResultCursor} {before after : σ}
    (fetched : cursor.fetchMore before = .ok fresh after) :
    rowsBound (fresh, after) ≤ rowsBound (cursor, before) := by
  unfold fetchMore at fetched
  split at fetched
  · cases fetched
    exact Nat.le_refl _
  · split at fetched
    · simp at fetched
    · split at fetched
      · rename_i batch between received
        have lower := supply_fetchBatch received
        cases fetched
        simp only [rowsBound, withBatch, Option.getD_some]
        omega
      · simp at fetched

theorem batchTaken_lt_of_known {cursor : ResultCursor}
    (known : cursor.hasNextKnown? = some true) :
    cursor.batchTaken < (cursor.batch.getD #[]).size := by
  unfold hasNextKnown? at known
  split at known
  · simp at known
  · split at known
    · simp at known
    · rename_i batch present
      split at known
      · simp at known
      · split at known
        · simpa [present]
        · split at known <;> simp at known

theorem batchTaken_lt_of_fetched {cursor fresh : ResultCursor} {before after : σ}
    (needed : cursor.hasNextKnown? = none)
    (fetched : cursor.fetchMore before = .ok fresh after) (rows : fresh.hasRows = true) :
    fresh.batchTaken < (fresh.batch.getD #[]).size := by
  unfold fetchMore at fetched
  split at fetched
  · rename_i ended
    cases fetched
    simp only [hasNextKnown?, ended, if_true] at needed
    unfold hasRows at rows
    split at rows
    · rename_i batch present
      simp only [present] at needed
      split at needed
      · simp at needed
      · split at needed
        · simp at needed
        · split at needed <;> simp at needed
    · simp at rows
  · split at fetched
    · simp at fetched
    · split at fetched
      · rename_i batch between received
        cases fetched
        simp only [hasRows, withBatch, Bool.not_eq_true', Array.isEmpty_eq_false_iff] at rows
        simpa only [withBatch, Option.getD_some] using Array.size_pos_iff.mpr rows
      · simp at fetched

/-- A row that is handed out lowers the bound. -/
theorem rowsBound_next {before after : ResultCursor × σ} {row : PacketRow}
    (moved : next before = .ok (some row) after) : rowsBound after < rowsBound before := by
  obtain ⟨cursor, session⟩ := before
  simp only [next, hasNext] at moved
  split at moved
  · split at moved <;> simp at moved
  · split at moved
    · simp at moved
    · simp at moved
    · rename_i fresh between available
      split at available
      · rename_i answer known
        cases available
        have room := batchTaken_lt_of_known known
        split at moved
        · cases moved
          simp only [rowsBound, advance]
          omega
        · simp at moved
      · rename_i needed
        split at available
        · rename_i fetched
          simp only [EStateM.Result.ok.injEq, Prod.mk.injEq] at available
          obtain ⟨rows, rfl, rfl⟩ := available
          have bound := rowsBound_fetchMore fetched
          have room := batchTaken_lt_of_fetched needed fetched rows
          split at moved
          · cases moved
            simp only [rowsBound, advance] at *
            omega
          · simp at moved
        · simp at available

/-- A visit whose limit is above the bound ends at the end of the result, unless it
fails. -/
theorem forEachUpTo_reaches_end (visit : PacketRow → Step τ Unit) {limit : Nat}
    {before after : (ResultCursor × σ) × τ} {ended : Bool}
    (enough : rowsBound before.1 < limit)
    (visited : forEachUpTo visit limit before = .ok ended after) : ended = true := by
  induction limit generalizing before with
  | zero => omega
  | succ limit ih =>
      obtain ⟨state, seen⟩ := before
      rw [forEachUpTo] at visited
      split at visited
      · simp at visited
      · cases visited
        rfl
      · rename_i row behind moved
        have lower := rowsBound_next moved
        split at visited
        · simp at visited
        · exact ih (by simp only at enough ⊢; omega) visited

end

end RowCursor.ResultCursor
