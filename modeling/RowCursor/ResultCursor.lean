import RowCursor.Command
import RowCursor.Options
import RowCursor.Session

/-!
# Forward-only rows of a server-side cursor

The server keeps a result and hands it out in batches, one for every fetch command.
A `ResultCursor` holds the current batch and fetches the next one when the consumer
runs past its end.  It moves forward only; every operation that may need a round
trip is a step over the cursor together with its session.

A fetch either yields the cursor with the new batch, or fails and leaves the cursor
as it was.
-/

set_option autoImplicit false

namespace RowCursor

/-- The rows of an open server-side cursor. -/
structure ResultCursor where
  statementId : UInt32
  options : CursorOptions
  /-- The metadata of every row; `none` once the cursor is closed. -/
  columns : Option Columns
  /-- The rows of the last fetch; `none` before the first. -/
  batch : Option (Array PacketRow)
  /-- How many rows of the batch were passed, the current row included. -/
  batchTaken : Nat
  /-- How many rows of the result were passed, the current row included.  Only 2^64 rows tell
  this count apart from a 64-bit position. -/
  taken : Nat
  /-- The server told that it has sent its last row. -/
  lastRowFetched : Bool
  /-- The server ended the result on the first fetch without any row. -/
  isEmpty : Bool
  /-- The end of the result was reached. -/
  isAfterLast : Bool
  deriving DecidableEq, Repr

namespace ResultCursor

def create (statementId : UInt32) (columns : Columns) (options : CursorOptions) : ResultCursor :=
  { statementId, options, columns := some columns, batch := none, batchTaken := 0, taken := 0,
    lastRowFetched := false, isEmpty := false, isAfterLast := false }

/-! ## Where the cursor stands -/

def isClosed (cursor : ResultCursor) : Bool := cursor.columns.isNone

/-- Whether as many rows were passed as the options admit. -/
def maxRowsReached (cursor : ResultCursor) : Bool :=
  match cursor.options.maxRows with
  | some limit => limit ≤ cursor.taken
  | none => false

def isBeforeFirst (cursor : ResultCursor) : Bool :=
  !cursor.isEmpty && cursor.taken == 0

def isFirst (cursor : ResultCursor) : Bool :=
  !cursor.isAfterLast && cursor.taken == 1

/-- Whether the current row is known to be the last one, without a fetch. -/
def isLast (cursor : ResultCursor) : Bool :=
  if cursor.isAfterLast || cursor.taken == 0 then false
  else if cursor.maxRowsReached then true
  else
    match cursor.batch with
    | some batch => cursor.lastRowFetched && cursor.batchTaken != 0 &&
        cursor.batchTaken == batch.size
    | none => false

/-- The number of the current row, counted from one; zero when not on a row. -/
def currentRowNumber (cursor : ResultCursor) : Nat :=
  if cursor.isAfterLast || cursor.isClosed then 0 else cursor.taken

/-! ## Fetching -/

/-- The count of rows that the next fetch asks for: as many as the options say, but
no more than are admitted, and never none. -/
def rowsToRequest (cursor : ResultCursor) : UInt32 :=
  let rows := cursor.options.rowsPerFetch
  match cursor.options.maxRows with
  | some limit =>
    let remaining := limit - cursor.taken
    if remaining < UInt32.size then max (min rows (UInt32.ofNat remaining)) 1 else rows
  | none => rows

section

variable {σ : Type} [RowSession σ]

/-- Send the next fetch command and read the batch that answers it. -/
def fetchBatch (cursor : ResultCursor) (columns : Columns) : Step σ (Array PacketRow) := do
  RowSession.sendCommand (Command.fetch cursor.statementId cursor.rowsToRequest).encode
  RowSession.readBatch columns #[]

/-- The cursor with a new batch, `lastRowSent` being what its end told.  An empty
first batch means an empty result only if the server says that it is the last. -/
def withBatch (cursor : ResultCursor) (batch : Array PacketRow) (lastRowSent : Bool) :
    ResultCursor :=
  { cursor with
    batch := some batch
    batchTaken := 0
    lastRowFetched := cursor.lastRowFetched || lastRowSent
    isEmpty := if lastRowSent then cursor.batch.isNone && batch.isEmpty else cursor.isEmpty }

/-- The cursor with the next batch.  Nothing is sent once the last row was fetched. -/
def fetchMore (cursor : ResultCursor) : Step σ ResultCursor := fun session =>
  if cursor.lastRowFetched then .ok cursor session
  else
    match cursor.columns with
    | none => .error .resultSetClosed session
    | some columns =>
      match cursor.fetchBatch columns session with
      | .ok batch session =>
        .ok (cursor.withBatch batch (RowSession.lastRowSent session)) session
      | .error error session => .error (.fetchFailed cursor.statementId error) session

def hasRows (cursor : ResultCursor) : Bool :=
  match cursor.batch with
  | some batch => !batch.isEmpty
  | none => false

/-- Whether the answer to `hasNext` is known without a fetch, and what it is. -/
def hasNextKnown? (cursor : ResultCursor) : Option Bool :=
  if cursor.isClosed || cursor.maxRowsReached then some false
  else
    match cursor.batch with
    | none => none
    | some batch =>
      if batch.isEmpty then some false
      else if cursor.batchTaken < batch.size then some true
      else if cursor.lastRowFetched then some false
      else none

/-- Whether another row is available; fetches a batch if the current one is used up. -/
def hasNext : Step (ResultCursor × σ) Bool := fun (cursor, session) =>
  match cursor.hasNextKnown? with
  | some answer => .ok answer (cursor, session)
  | none =>
    match cursor.fetchMore session with
    | .ok cursor session => .ok cursor.hasRows (cursor, session)
    | .error error session => .error error (cursor, session)

/-! ## Moving -/

def advance (cursor : ResultCursor) : ResultCursor :=
  { cursor with batchTaken := cursor.batchTaken + 1, taken := cursor.taken + 1 }

def finish (cursor : ResultCursor) : ResultCursor :=
  { cursor with isAfterLast := cursor.isAfterLast || !cursor.isEmpty }

/-- The row with a given index in the batch, with the cursor's metadata attached. -/
def batchRow (cursor : ResultCursor) (index : Nat) : Except Error PacketRow :=
  match cursor.columns with
  | none => .error .resultSetClosed
  | some columns =>
    match cursor.batch.bind fun batch => batch[index]? with
    | none => .error (.libraryBug (.missingBatchRow index))
    | some row => row.setColumns columns

/-- Move to the next row and hand it out; `none` at the end of the result.  A closed
cursor that had handed out a row refuses. -/
def next : Step (ResultCursor × σ) (Option PacketRow) := fun (cursor, session) =>
  if cursor.isClosed then
    if cursor.taken = 0 then .ok none (cursor, session)
    else .error .resultSetClosed (cursor, session)
  else
    match hasNext (cursor, session) with
    | .error error state => .error error state
    | .ok false (cursor, session) => .ok none (cursor.finish, session)
    | .ok true (cursor, session) =>
      match cursor.batchRow cursor.batchTaken with
      | .ok row => .ok (some row) (cursor.advance, session)
      | .error error => .error error (cursor.advance, session)

/-- Release the metadata and the batch; nothing more is handed out. -/
def close (cursor : ResultCursor) : ResultCursor :=
  { cursor with columns := none, batch := none, batchTaken := 0 }

end

end ResultCursor

end RowCursor
