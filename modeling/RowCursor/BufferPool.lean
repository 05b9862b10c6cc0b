import RowCursor.BufferSet

/-!
# Pools of buffers

A pool keeps buffers and buffer sets that nobody uses, each up to a capacity, and
lends them out again, the one that waited longest first.  A buffer is emptied when
it comes back; what comes back to a full pool is dropped.  `Loans` is a pool together
with everything that it has lent, so that a history of loans and returns is a
sequence of operations on one value.
-/

set_option autoImplicit false

namespace RowCursor

/-- Idle buffers and buffer sets. -/
structure BufferPool where
  /-- The most idle buffers, and the most idle sets, that are kept. -/
  capacity : Nat
  capacity_pos : 0 < capacity
  buffers : List Bytes
  sets : List BufferSet

namespace BufferPool

def defaultCapacity : Nat := 128

/-- A pool of nothing yet; there is none without a capacity. -/
def ofCapacity? (capacity : Nat) : Option BufferPool :=
  if capacity_pos : 0 < capacity then some { capacity, capacity_pos, buffers := [], sets := [] }
  else none

def lendBuffer (pool : BufferPool) : Bytes × BufferPool :=
  match pool.buffers with
  | [] => ([], pool)
  | buffer :: rest => (buffer, { pool with buffers := rest })

/-- Take a buffer back, emptied. -/
def returnBuffer (pool : BufferPool) (buffer : Bytes) : BufferPool :=
  if pool.buffers.length < pool.capacity then
    { pool with buffers := pool.buffers ++ [buffer.take 0] }
  else pool

def lendSet (pool : BufferPool) : BufferSet × BufferPool :=
  match pool.sets with
  | [] => (.empty, pool)
  | set :: rest => (set, { pool with sets := rest })

/-- Take a buffer set back, cleared. -/
def returnSet (pool : BufferPool) (set : BufferSet) : BufferPool :=
  if pool.sets.length < pool.capacity then { pool with sets := pool.sets ++ [set.clear] }
  else pool

def idleBuffers (pool : BufferPool) : Nat := pool.buffers.length

end BufferPool

/-- A pool and what it has lent, in the order of the loans; `none` marks what came
back. -/
structure Loans where
  pool : BufferPool
  buffers : Array (Option Bytes)
  sets : Array (Option BufferSet)

namespace Loans

def ofPool (pool : BufferPool) : Loans := ⟨pool, #[], #[]⟩

def borrowBuffer (loans : Loans) : Bytes × Loans :=
  let (buffer, pool) := loans.pool.lendBuffer
  (buffer, { loans with pool, buffers := loans.buffers.push (some buffer) })

def buffer? (loans : Loans) (handle : Nat) : Option Bytes :=
  loans.buffers[handle]?.join

def replaceBuffer (loans : Loans) (handle : Nat) (buffer : Bytes) : Loans :=
  { loans with buffers := loans.buffers.setIfInBounds handle (some buffer) }

def giveBackBuffer (loans : Loans) (handle : Nat) : Loans :=
  match loans.buffer? handle with
  | some buffer =>
    { loans with
      pool := loans.pool.returnBuffer buffer
      buffers := loans.buffers.setIfInBounds handle none }
  | none => loans

/-- Give the pool a buffer that it did not lend. -/
def donateBuffer (loans : Loans) (buffer : Bytes) : Loans :=
  { loans with pool := loans.pool.returnBuffer buffer }

def borrowSet (loans : Loans) : BufferSet × Loans :=
  let (set, pool) := loans.pool.lendSet
  (set, { loans with pool, sets := loans.sets.push (some set) })

def set? (loans : Loans) (handle : Nat) : Option BufferSet :=
  loans.sets[handle]?.join

def replaceSet (loans : Loans) (handle : Nat) (set : BufferSet) : Loans :=
  { loans with sets := loans.sets.setIfInBounds handle (some set) }

def giveBackSet (loans : Loans) (handle : Nat) : Loans :=
  match loans.set? handle with
  | some set =>
    { loans with
      pool := loans.pool.returnSet set
      sets := loans.sets.setIfInBounds handle none }
  | none => loans

/-- Give the pool a buffer set that it did not lend. -/
def donateSet (loans : Loans) (set : BufferSet) : Loans :=
  { loans with pool := loans.pool.returnSet set }

end Loans

end RowCursor
