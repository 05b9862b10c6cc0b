import RowCursor.BufferPool
import RowCursor.Proofs.Bytes

/-!
# Nothing is left of an earlier loan

A pool and its users go through loans, changes of what is on loan, returns and donations, in
any order.  All that waits in the pool is as good as new, so whatever is lent is empty, and the
count of idle buffers follows the loans and returns of buffers alone.
-/

set_option autoImplicit false

namespace RowCursor

/-! ## What waits in a pool -/

namespace BufferPool

/-- So many empty buffers wait, no more than are kept, and every set that waits is a fresh
one. -/
structure Clean (capacity idle : Nat) (pool : BufferPool) : Prop where
  capacity_eq : pool.capacity = capacity
  buffers_eq : pool.buffers = List.replicate idle []
  idle_le : idle ≤ capacity
  sets_fresh : ∀ set ∈ pool.sets, set = .empty

variable {capacity idle : Nat} {pool : BufferPool}

theorem clean_ofCapacity? (made : ofCapacity? capacity = some pool) : pool.Clean capacity 0 := by
  unfold ofCapacity? at made
  split at made
  · cases made
    exact ⟨rfl, rfl, Nat.zero_le _, by simp⟩
  · cases made

theorem Clean.idleBuffers_eq (clean : pool.Clean capacity idle) : pool.idleBuffers = idle := by
  rw [idleBuffers, clean.buffers_eq, List.length_replicate]

theorem Clean.lendBuffer (clean : pool.Clean capacity idle) :
    pool.lendBuffer.1 = [] ∧ pool.lendBuffer.2.Clean capacity (idle - 1) := by
  have waiting := clean.buffers_eq
  unfold BufferPool.lendBuffer
  cases idle with
  | zero =>
      rw [waiting]
      exact ⟨rfl, clean⟩
  | succ idle =>
      rw [waiting]
      exact ⟨rfl, { clean with buffers_eq := rfl, idle_le := Nat.le_of_succ_le clean.idle_le }⟩

theorem Clean.returnBuffer (clean : pool.Clean capacity idle) (buffer : Bytes) :
    (pool.returnBuffer buffer).Clean capacity (min (idle + 1) capacity) := by
  have kept : pool.buffers.length < pool.capacity ↔ idle < capacity := by
    rw [clean.buffers_eq, List.length_replicate, clean.capacity_eq]
  have bound := clean.idle_le
  unfold BufferPool.returnBuffer
  by_cases room : idle < capacity
  · rw [if_pos (kept.mpr room), Nat.min_eq_left room]
    refine { clean with buffers_eq := ?_, idle_le := room }
    rw [clean.buffers_eq]
    exact List.replicate_succ'.symm
  · have full : min (idle + 1) capacity = idle := by omega
    rw [if_neg fun more => room (kept.mp more), full]
    exact clean

theorem Clean.lendSet (clean : pool.Clean capacity idle) :
    pool.lendSet.1 = .empty ∧ pool.lendSet.2.Clean capacity idle := by
  have fresh := clean.sets_fresh
  unfold BufferPool.lendSet
  cases waiting : pool.sets with
  | nil => exact ⟨rfl, clean⟩
  | cons set rest =>
      rw [waiting, List.forall_mem_cons] at fresh
      exact ⟨fresh.1, { clean with sets_fresh := fresh.2 }⟩

theorem clear_eq_empty (set : BufferSet) : set.clear = .empty := rfl

theorem Clean.returnSet (clean : pool.Clean capacity idle) (set : BufferSet) :
    (pool.returnSet set).Clean capacity idle := by
  unfold BufferPool.returnSet
  split
  · refine { clean with sets_fresh := ?_ }
    intro other member
    rcases List.mem_append.mp member with waiting | back
    · exact clean.sets_fresh other waiting
    · rw [List.mem_singleton.mp back, clear_eq_empty]
  · exact clean

end BufferPool

/-! ## Histories -/

namespace Loans

/-- What the users of a pool may do. -/
inductive Use where
  | borrowBuffer
  | changeBuffer (handle : Nat) (change : Bytes → Bytes)
  | giveBackBuffer (handle : Nat)
  | donateBuffer (buffer : Bytes)
  | borrowSet
  | changeSet (handle : Nat) (change : BufferSet → BufferSet)
  | giveBackSet (handle : Nat)
  | donateSet (set : BufferSet)

/-- Only what is on loan is changed or given back. -/
def Admits (loans : Loans) : Use → Prop
  | .changeBuffer handle _ => (loans.buffer? handle).isSome
  | .giveBackBuffer handle => (loans.buffer? handle).isSome
  | .changeSet handle _ => (loans.set? handle).isSome
  | .giveBackSet handle => (loans.set? handle).isSome
  | .borrowBuffer => True
  | .donateBuffer _ => True
  | .borrowSet => True
  | .donateSet _ => True

def use (loans : Loans) : Use → Loans
  | .borrowBuffer => loans.borrowBuffer.2
  | .changeBuffer handle change =>
    loans.replaceBuffer handle (change ((loans.buffer? handle).getD []))
  | .giveBackBuffer handle => loans.giveBackBuffer handle
  | .donateBuffer buffer => loans.donateBuffer buffer
  | .borrowSet => loans.borrowSet.2
  | .changeSet handle change =>
    loans.replaceSet handle (change ((loans.set? handle).getD .empty))
  | .giveBackSet handle => loans.giveBackSet handle
  | .donateSet set => loans.donateSet set

/-- A history of admitted uses. -/
inductive Run (start : Loans) : List Use → Loans → Prop where
  | start : Run start [] start
  | next {uses : List Use} {loans : Loans} (run : Run start uses loans) (use : Use)
      (admitted : loans.Admits use) : Run start (uses ++ [use]) (loans.use use)

/-- The count of idle buffers after a use, from the count before it. -/
def countIdle (capacity idle : Nat) : Use → Nat
  | .borrowBuffer => idle - 1
  | .giveBackBuffer _ => min (idle + 1) capacity
  | .donateBuffer _ => min (idle + 1) capacity
  | .changeBuffer _ _ => idle
  | .borrowSet => idle
  | .changeSet _ _ => idle
  | .giveBackSet _ => idle
  | .donateSet _ => idle

variable {capacity idle : Nat} {loans start : Loans} {uses : List Use}

theorem clean_use (clean : loans.pool.Clean capacity idle) (use : Use)
    (admitted : loans.Admits use) :
    (loans.use use).pool.Clean capacity (countIdle capacity idle use) := by
  cases use with
  | borrowBuffer => exact clean.lendBuffer.2
  | changeBuffer handle change => exact clean
  | giveBackBuffer handle =>
      obtain ⟨buffer, lent⟩ := Option.isSome_iff_exists.mp admitted
      simp only [Loans.use, giveBackBuffer, lent]
      exact clean.returnBuffer buffer
  | donateBuffer buffer => exact clean.returnBuffer buffer
  | borrowSet => exact clean.lendSet.2
  | changeSet handle change => exact clean
  | giveBackSet handle =>
      obtain ⟨set, lent⟩ := Option.isSome_iff_exists.mp admitted
      simp only [Loans.use, giveBackSet, lent]
      exact clean.returnSet set
  | donateSet set => exact clean.returnSet set

theorem Run.clean (run : Run start uses loans) (fresh : start.pool.Clean capacity idle) :
    loans.pool.Clean capacity (uses.foldl (countIdle capacity) idle) := by
  induction run with
  | start => exact fresh
  | next run use admitted ih =>
      rw [List.foldl_append]
      exact clean_use ih use admitted

/-- A pool with a capacity, after any history of its users: a buffer that is borrowed now is
empty, a buffer set is a fresh one, and the idle buffers are no more than the capacity and as
many as the count of loans and returns says. -/
theorem loans_are_as_good_as_new (capacity : Nat) (positive : 0 < capacity) :
    ∃ pool, BufferPool.ofCapacity? capacity = some pool ∧
      ∀ uses loans, Run (ofPool pool) uses loans →
        (loans.borrowBuffer.1 = [] ∧
          loans.borrowBuffer.2.buffer? loans.buffers.size = some []) ∧
        (loans.borrowSet.1 = ⟨[], [0, 0, 0, 0]⟩ ∧
          loans.borrowSet.2.set? loans.sets.size = some ⟨[], [0, 0, 0, 0]⟩) ∧
        loans.pool.idleBuffers ≤ capacity ∧
        loans.pool.idleBuffers = uses.foldl (countIdle capacity) 0 := by
  have made : BufferPool.ofCapacity? capacity = some ⟨capacity, positive, [], []⟩ :=
    dif_pos positive
  refine ⟨_, made, ?_⟩
  intro uses loans run
  have clean := run.clean (BufferPool.clean_ofCapacity? made)
  have buffer : loans.borrowBuffer.1 = [] := clean.lendBuffer.1
  have set : loans.borrowSet.1 = ⟨[], [0, 0, 0, 0]⟩ := clean.lendSet.1
  have counted := clean.idleBuffers_eq
  refine ⟨⟨buffer, ?_⟩, ⟨set, ?_⟩, ?_, counted⟩
  · rw [← buffer]
    simp [borrowBuffer, buffer?]
  · rw [← set]
    simp [borrowSet, set?]
  · rw [counted]
    exact clean.idle_le

/-- A pool of one: a buffer and a set come back in bad shape, and a donated buffer is dropped. -/
theorem changed_loans_come_back_fresh :
    let uses : List Use := [.borrowBuffer, .borrowSet, .changeBuffer 0 (· ++ [1, 2]),
      .changeSet 0 (BufferSet.newWriteTruncated · 2), .giveBackBuffer 0, .donateBuffer [9],
      .giveBackSet 0]
    ∃ pool loans, BufferPool.ofCapacity? 1 = some pool ∧ Run (ofPool pool) uses loans ∧
      loans.borrowBuffer.1 = [] ∧ loans.borrowSet.1 = ⟨[], [0, 0, 0, 0]⟩ ∧
      loans.pool.idleBuffers = 1 := by
  intro uses
  obtain ⟨pool, made, lends⟩ := loans_are_as_good_as_new 1 (by decide)
  cases made
  let start := ofPool ⟨1, by decide, [], []⟩
  have borrowed : Run start [.borrowBuffer, .borrowSet] _ :=
    .next (.next .start .borrowBuffer trivial) .borrowSet trivial
  have changed : Run start [.borrowBuffer, .borrowSet, .changeBuffer 0 (· ++ [1, 2]),
      .changeSet 0 (BufferSet.newWriteTruncated · 2)] _ :=
    .next (.next borrowed (.changeBuffer 0 _) rfl) (.changeSet 0 _) rfl
  have run : Run start uses _ :=
    .next (.next (.next changed (.giveBackBuffer 0) rfl) (.donateBuffer [9]) trivial)
      (.giveBackSet 0) rfl
  obtain ⟨buffer, set, _, counted⟩ := lends uses _ run
  exact ⟨_, _, rfl, run, buffer.1, set.1, counted⟩

end Loans

end RowCursor
