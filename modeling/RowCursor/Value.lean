import RowCursor.Codec
import RowCursor.ColumnDefinition

/-!
# Column values

A value is what one column of one row holds.  `Value.ofBinary` decodes the bytes of
a column in a binary row by the column's type: integers by width and sign, floating
point numbers as their bits, dates and times by their length, and every other type
as the bytes themselves.
-/

set_option autoImplicit false

namespace RowCursor

/-! ## Dates and times -/

structure CalendarDate where
  year : UInt16
  month : UInt8
  day : UInt8
  deriving DecidableEq, Repr

/-- A time of day, in whole seconds. -/
structure ClockTime where
  hour : UInt8
  minute : UInt8
  second : UInt8
  deriving DecidableEq, Repr

/-- A point in time, with the parts that were sent. -/
inductive Timestamp where
  | zero
  | date (date : CalendarDate)
  | seconds (date : CalendarDate) (clock : ClockTime)
  | microseconds (date : CalendarDate) (clock : ClockTime) (microsecond : UInt32)
  deriving DecidableEq, Repr

/-- A signed span of time, with the parts that were sent. -/
inductive TimeSpan where
  | zero
  | seconds (negative : Bool) (days : UInt32) (clock : ClockTime)
  | microseconds (negative : Bool) (days : UInt32) (clock : ClockTime) (microsecond : UInt32)
  deriving DecidableEq, Repr

def CalendarDate.read : Reader CalendarDate := do
  return { year := ← Read.int2, month := ← Read.int1, day := ← Read.int1 }

def ClockTime.read : Reader ClockTime := do
  return { hour := ← Read.int1, minute := ← Read.int1, second := ← Read.int1 }

/-- The point in time that 0, 4, 7 or 11 bytes spell. -/
def Timestamp.ofBytes (data : Bytes) : Except Error Timestamp :=
  let spell (item : Reader Timestamp) := (item data).map Prod.fst
  match data.length with
  | 0 => .ok .zero
  | 4 => spell do return .date (← CalendarDate.read)
  | 7 => spell do return .seconds (← CalendarDate.read) (← ClockTime.read)
  | 11 => spell do
    return .microseconds (← CalendarDate.read) (← ClockTime.read) (← Read.int4)
  | length => .error (.libraryBug (.invalidTimestampLength length))

/-- Read a sign: any byte but zero is negative. -/
def TimeSpan.readNegative : Reader Bool := do
  return (← Read.int1) != 0

/-- The span of time that 0, 8 or 12 bytes spell. -/
def TimeSpan.ofBytes (data : Bytes) : Except Error TimeSpan :=
  let spell (item : Reader TimeSpan) := (item data).map Prod.fst
  match data.length with
  | 0 => .ok .zero
  | 8 => spell do return .seconds (← readNegative) (← Read.int4) (← ClockTime.read)
  | 12 => spell do
    return .microseconds (← readNegative) (← Read.int4) (← ClockTime.read) (← Read.int4)
  | length => .error (.libraryBug (.invalidTimeLength length))

/-! ## Values -/

/-- What one column of one row holds. -/
inductive Value where
  | null
  | signedInt (value : Int64)
  | unsignedInt (value : UInt64)
  /-- A single-precision number, as its bits. -/
  | float (bits : UInt32)
  /-- A double-precision number, as its bits. -/
  | double (bits : UInt64)
  | timestamp (value : Timestamp)
  | time (value : TimeSpan)
  /-- Text, and every type that has no form of its own. -/
  | bytes (data : Bytes)
  deriving DecidableEq, Repr

namespace Value

/-- An integer read from a word whose two readings are given. -/
def integer (unsigned : Bool) (asUnsigned : UInt64) (asSigned : Int64) : Value :=
  if unsigned then .unsignedInt asUnsigned else .signedInt asSigned

/-- The value that the bytes of a column spell in a binary row.  Bytes beyond the
width of a number are left alone. -/
def ofBinary (column : ColumnDefinition) (data : Bytes) : Except Error Value :=
  let spell (item : Reader Value) := (item data).map Prod.fst
  match column.type? with
  | none => .error (.libraryBug (.unknownColumnType column.typeId))
  | some .null => .ok .null
  | some .tiny => spell do
    let word ← Read.int1
    return integer column.isUnsigned word.toUInt64 word.toInt8.toInt64
  | some .short | some .year => spell do
    let word ← Read.int2
    return integer column.isUnsigned word.toUInt64 word.toInt16.toInt64
  | some .int24 | some .long => spell do
    let word ← Read.int4
    return integer column.isUnsigned word.toUInt64 word.toInt32.toInt64
  | some .longLong => spell do
    let word ← Read.int8
    return integer column.isUnsigned word word.toInt64
  | some .float => spell do return .float (← Read.int4)
  | some .double => spell do return .double (← Read.int8)
  | some .date | some .dateTime | some .timestamp => (Timestamp.ofBytes data).map .timestamp
  | some .time => (TimeSpan.ofBytes data).map .time
  | some kind =>
    match kind.binaryLength with
    | .lengthEncoded => .ok (.bytes data)
    | _ => .error (.libraryBug (.noBinaryDecoding kind))

end Value

end RowCursor
