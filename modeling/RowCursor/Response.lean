import RowCursor.Codec
import RowCursor.Flags

/-!
# Responses

The packets with which a server answers: an OK packet, an error report, and the
packet that ends a stream of rows.  The last is an EOF packet or, under
`deprecateEof`, an OK packet with another first byte; what tells it from a row is
its first byte together with its length.
-/

set_option autoImplicit false

namespace RowCursor

structure OkReport where
  affectedRows : UInt64
  lastInsertId : UInt64
  status : StatusFlags
  warnings : UInt16
  deriving DecidableEq, Repr

/-- Read an OK packet; any bytes after the warnings are left alone. -/
def OkReport.read : Reader OkReport := do
  let first ← Read.int1
  if first ≠ 0x00 ∧ first ≠ 0xFE then
    throw .invalidPacket
  let affectedRows ← Read.intLenenc
  let lastInsertId ← Read.intLenenc
  let status ← Read.int2
  let warnings ← Read.int2
  return { affectedRows, lastInsertId, status := .ofBits status, warnings }

def OkReport.ofPayload (payload : Bytes) : Except Error OkReport :=
  (OkReport.read payload).map Prod.fst

/-- Read the state of an error packet: five bytes behind a number sign, or nothing. -/
def ServerReport.readState : Reader String
  | 0x23 :: rest => (Read.fixed 5 rest).map fun (state, rest) => (Utf8.decodeLossy state, rest)
  | data => .ok ("", data)

/-- Read an error packet; its text is all that is left. -/
def ServerReport.read : Reader ServerReport := do
  let first ← Read.int1
  if first ≠ 0xFF then
    throw .invalidPacket
  let code ← Read.int2
  let state ← ServerReport.readState
  let text ← Read.rest
  return { code, state, text := Utf8.decodeLossy text }

def ServerReport.ofPayload (payload : Bytes) : Except Error ServerReport :=
  (ServerReport.read payload).map Prod.fst

/-- The error that an error packet stands for, or the fault in the packet. -/
def Error.ofPayload (payload : Bytes) : Error :=
  match ServerReport.ofPayload payload with
  | .ok report => .server report
  | .error error => error

structure EofReport where
  warnings : UInt16
  /-- The status word as sent. -/
  rawStatus : UInt16
  deriving DecidableEq, Repr

def EofReport.status (report : EofReport) : StatusFlags :=
  .ofBits report.rawStatus

def EofReport.read : Reader EofReport := do
  let first ← Read.int1
  if first ≠ 0xFE then
    throw .invalidPacket
  let warnings ← Read.int2
  let rawStatus ← Read.int2
  return { warnings, rawStatus }

def EofReport.ofPayload (payload : Bytes) : Except Error EofReport :=
  (EofReport.read payload).map Prod.fst

/-! ## The end of a row stream -/

/-- Whether a payload is an error packet where a row or a terminator is due. -/
def isErrorPacket (payload : Bytes) : Bool :=
  payload.head? == some 0xFF

/-- The length from which on a payload cannot be a terminator.  An OK packet is only
told from a text row that starts with an eight-byte length by being shorter than any
such row. -/
def terminatorBound (capabilities : CapabilityFlags) : Nat :=
  if capabilities.deprecateEof then 0xFFFFFF else 9

/-- Whether a payload ends a stream of rows rather than being one. -/
def isRowTerminator (payload : Bytes) (capabilities : CapabilityFlags) : Bool :=
  payload.head? == some 0xFE && decide (payload.length < terminatorBound capabilities)

/-- The server status that a terminator carries. -/
def terminatorStatus (payload : Bytes) (capabilities : CapabilityFlags) :
    Except Error StatusFlags :=
  if capabilities.deprecateEof then (OkReport.ofPayload payload).map OkReport.status
  else (EofReport.ofPayload payload).map EofReport.status

end RowCursor
