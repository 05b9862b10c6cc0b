import RowCursor.Response

/-!
# Commands on prepared statements

The three commands that a cursor needs, as values and as bytes, and the first
packet of the response to an execute command.
-/

set_option autoImplicit false

namespace RowCursor

/-- A command on a prepared statement. -/
inductive Command where
  /-- Run a statement without parameters, once, keeping its result in a cursor. -/
  | execute (statementId : UInt32) (kind : CursorKind)
  /-- Ask for the next rows of a statement's cursor. -/
  | fetch (statementId : UInt32) (rows : UInt32)
  /-- Forget a statement; the server does not answer. -/
  | closeStatement (statementId : UInt32)
  deriving DecidableEq, Repr

def Command.encode : Command → Bytes
  | execute statementId kind =>
    Write.int1 0x17 ++ Write.int4 statementId ++ Write.int1 kind.bits ++ Write.int4 1
  | fetch statementId rows => Write.int1 0x1C ++ Write.int4 statementId ++ Write.int4 rows
  | closeStatement statementId => Write.int1 0x19 ++ Write.int4 statementId

/-- What the first packet after an execute command announces. -/
inductive ExecuteResponse where
  /-- The statement has no result; the packet is an OK packet. -/
  | ok (payload : Bytes)
  /-- A result with this many columns follows. -/
  | resultSet (columnCount : UInt64)
  deriving DecidableEq, Repr

/-- Read the first packet after an execute command. -/
def ExecuteResponse.ofPayload (payload : Bytes) : Except Error ExecuteResponse :=
  match payload with
  | [] => .error .invalidPacket
  | first :: _ =>
    if first = 0x00 then .ok (.ok payload)
    else if first = 0xFF then .error (.ofPayload payload)
    else (Read.intLenenc payload).map fun (columnCount, _) => .resultSet columnCount

end RowCursor
