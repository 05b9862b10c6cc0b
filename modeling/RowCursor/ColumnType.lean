/-!
# Column types

Every type of column has a numeric id and a fixed layout in binary rows: a fixed
count of bytes, a length prefix, or none because such a column is never sent.
Ids outside the list exist on the wire and have no type.
-/

set_option autoImplicit false

namespace RowCursor

/-- How a value lies in a binary row. -/
inductive BinaryLength where
  /-- Exactly this many bytes. -/
  | fixed (width : Nat)
  /-- A length prefix followed by that many bytes. -/
  | lengthEncoded
  /-- Never sent in a binary row. -/
  | unsupported
  deriving DecidableEq, Repr

/-- The types a column can have. -/
inductive ColumnType where
  | decimal | tiny | short | long | float | double | null | timestamp | longLong | int24
  | date | time | dateTime | year | newDate | varChar | bit | timestamp2 | dateTime2 | time2
  | typedArray | json | newDecimal | enumeration | set | tinyBlob | mediumBlob | longBlob
  | blob | varString | string | geometry
  deriving DecidableEq, Repr

namespace ColumnType

def all : List ColumnType := [
  decimal, tiny, short, long, float, double, null, timestamp, longLong, int24,
  date, time, dateTime, year, newDate, varChar, bit, timestamp2, dateTime2, time2,
  typedArray, json, newDecimal, enumeration, set, tinyBlob, mediumBlob, longBlob,
  blob, varString, string, geometry]

def id : ColumnType → UInt8
  | decimal => 0x00
  | tiny => 0x01
  | short => 0x02
  | long => 0x03
  | float => 0x04
  | double => 0x05
  | null => 0x06
  | timestamp => 0x07
  | longLong => 0x08
  | int24 => 0x09
  | date => 0x0a
  | time => 0x0b
  | dateTime => 0x0c
  | year => 0x0d
  | newDate => 0x0e
  | varChar => 0x0f
  | bit => 0x10
  | timestamp2 => 0x11
  | dateTime2 => 0x12
  | time2 => 0x13
  | typedArray => 0x14
  | json => 0xf5
  | newDecimal => 0xf6
  | enumeration => 0xf7
  | set => 0xf8
  | tinyBlob => 0xf9
  | mediumBlob => 0xfa
  | longBlob => 0xfb
  | blob => 0xfc
  | varString => 0xfd
  | string => 0xfe
  | geometry => 0xff

def name : ColumnType → String
  | decimal => "MYSQL_TYPE_DECIMAL"
  | tiny => "MYSQL_TYPE_TINY"
  | short => "MYSQL_TYPE_SHORT"
  | long => "MYSQL_TYPE_LONG"
  | float => "MYSQL_TYPE_FLOAT"
  | double => "MYSQL_TYPE_DOUBLE"
  | null => "MYSQL_TYPE_NULL"
  | timestamp => "MYSQL_TYPE_TIMESTAMP"
  | longLong => "MYSQL_TYPE_LONGLONG"
  | int24 => "MYSQL_TYPE_INT24"
  | date => "MYSQL_TYPE_DATE"
  | time => "MYSQL_TYPE_TIME"
  | dateTime => "MYSQL_TYPE_DATETIME"
  | year => "MYSQL_TYPE_YEAR"
  | newDate => "MYSQL_TYPE_NEWDATE"
  | varChar => "MYSQL_TYPE_VARCHAR"
  | bit => "MYSQL_TYPE_BIT"
  | timestamp2 => "MYSQL_TYPE_TIMESTAMP2"
  | dateTime2 => "MYSQL_TYPE_DATETIME2"
  | time2 => "MYSQL_TYPE_TIME2"
  | typedArray => "MYSQL_TYPE_TYPED_ARRAY"
  | json => "MYSQL_TYPE_JSON"
  | newDecimal => "MYSQL_TYPE_NEWDECIMAL"
  | enumeration => "MYSQL_TYPE_ENUM"
  | set => "MYSQL_TYPE_SET"
  | tinyBlob => "MYSQL_TYPE_TINY_BLOB"
  | mediumBlob => "MYSQL_TYPE_MEDIUM_BLOB"
  | longBlob => "MYSQL_TYPE_LONG_BLOB"
  | blob => "MYSQL_TYPE_BLOB"
  | varString => "MYSQL_TYPE_VAR_STRING"
  | string => "MYSQL_TYPE_STRING"
  | geometry => "MYSQL_TYPE_GEOMETRY"

def ofId? (typeId : UInt8) : Option ColumnType :=
  all.find? fun kind => kind.id == typeId

/-- The layout of a non-NULL value in a binary row.  The types that only the server
uses internally are never sent. -/
def binaryLength : ColumnType → BinaryLength
  | null => .fixed 0
  | tiny => .fixed 1
  | short | year => .fixed 2
  | long | int24 | float => .fixed 4
  | longLong | double => .fixed 8
  | date | time | dateTime | timestamp | decimal | newDecimal | varChar | varString | string
  | bit | enumeration | set | json | geometry | tinyBlob | mediumBlob | longBlob | blob =>
    .lengthEncoded
  | newDate | timestamp2 | dateTime2 | time2 | typedArray => .unsupported

theorem ofId?_id (kind : ColumnType) : ofId? kind.id = some kind := by
  cases kind <;> rfl

end ColumnType

end RowCursor
