import RowCursor.Bytes
import RowCursor.Error
import RowCursor.Text.Utf8

/-!
# The basic data of packets

The MySQL client/server protocol builds its packets from a few kinds of data: words
of one, two, three, four and eight bytes, length-encoded integers, and byte strings
behind a length prefix.  `Read` takes such data off the front of a byte string and
leaves the rest; `Write` gives the bytes of a value.

A read fails with `unexpectedEof` where the bytes end too early, and with
`invalidPacket` where the first byte of a length-encoded integer has no meaning.
-/

set_option autoImplicit false

namespace RowCursor

/-- Takes a value off the front of a byte string and leaves the rest. -/
abbrev Reader (α : Type) := StateT Bytes (Except Error) α

/-- The first byte of a length prefix that stands for NULL. -/
def nullMarker : UInt8 := 0xFB

namespace Read

/-- The first `width` bytes. -/
def fixed (width : Nat) : Reader Bytes := fun data =>
  let taken := data.take width
  if taken.length = width then .ok (taken, data.drop width) else .error .unexpectedEof

def rest : Reader Bytes := fun data => .ok (data, [])

def int1 : Reader UInt8
  | [] => .error .unexpectedEof
  | byte :: rest => .ok (byte, rest)

def int2 : Reader UInt16 := do
  return UInt16.ofNat (ofLittleEndian (← fixed 2))

def int3 : Reader UInt32 := do
  return UInt32.ofNat (ofLittleEndian (← fixed 3))

def int4 : Reader UInt32 := do
  return UInt32.ofNat (ofLittleEndian (← fixed 4))

def int8 : Reader UInt64 := do
  return UInt64.ofNat (ofLittleEndian (← fixed 8))

/-- A length-encoded integer: a byte below 251 stands for itself, three other first
bytes announce a wider word, and the two that are left are refused. -/
def intLenenc : Reader UInt64 := do
  let first ← int1
  if first = 0xFC then
    return (← int2).toUInt64
  else if first = 0xFD then
    return (← int3).toUInt64
  else if first = 0xFE then
    int8
  else if first = nullMarker ∨ first = 0xFF then
    throw .invalidPacket
  else
    return first.toUInt64

/-- A length prefix; `none` is the NULL marker. -/
def lenencLength : Reader (Option UInt64)
  | [] => .error .unexpectedEof
  | first :: rest =>
    if first = nullMarker then .ok (none, rest)
    else match intLenenc (first :: rest) with
      | .ok (length, rest) => .ok (some length, rest)
      | .error error => .error error

def stringLenenc : Reader Bytes := do
  let length ← intLenenc
  fixed length.toNat

/-- A byte string behind its length; `none` is the NULL marker. -/
def nullableStringLenenc : Reader (Option Bytes) := do
  match ← lenencLength with
  | none => return none
  | some length => return some (← fixed length.toNat)

/-! Reading a fixed count of bytes succeeds exactly if there are that many. -/

theorem fixed_eq (width : Nat) (data : Bytes) :
    fixed width data =
      if width ≤ data.length then .ok (data.take width, data.drop width)
      else .error .unexpectedEof := by
  have enough : (data.take width).length = width ↔ width ≤ data.length := by
    rw [List.length_take]
    omega
  simp only [fixed, enough]

theorem fixed_append (taken rest : Bytes) :
    fixed taken.length (taken ++ rest) = .ok (taken, rest) := by
  simp [fixed_eq]

end Read

namespace Write

def int1 (value : UInt8) : Bytes := [value]

def int2 (value : UInt16) : Bytes := littleEndian 2 value.toNat

/-- A word of three bytes: the low three of the given four. -/
def int3 (value : UInt32) : Bytes := littleEndian 3 value.toNat

def int4 (value : UInt32) : Bytes := littleEndian 4 value.toNat

def int8 (value : UInt64) : Bytes := littleEndian 8 value.toNat

/-- A length-encoded integer in its shortest form. -/
def intLenenc (value : UInt64) : Bytes :=
  if value < 251 then [value.toUInt8]
  else if value < 0x10000 then 0xFC :: int2 value.toUInt16
  else if value < 0x1000000 then 0xFD :: int3 value.toUInt32
  else 0xFE :: int8 value

def bytesLenenc (data : Bytes) : Bytes :=
  intLenenc (UInt64.ofNat data.length) ++ data

/-- A text as UTF-8 behind its length in bytes. -/
def stringLenenc (text : String) : Bytes :=
  bytesLenenc (Utf8.encode text)

/-- A byte string behind its length, or the NULL marker. -/
def nullableBytesLenenc : Option Bytes → Bytes
  | some data => bytesLenenc data
  | none => [nullMarker]

end Write

end RowCursor
