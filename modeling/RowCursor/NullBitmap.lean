import RowCursor.Bytes

/-!
# The NULL bitmap of a binary row

One bit for every column, set if the column is NULL.  The first two bits are
reserved, so column 0 has the third bit of the first byte.
-/

set_option autoImplicit false

namespace RowCursor

/-- The bytes that say which columns are NULL. -/
structure NullBitmap where
  bytes : Bytes
  deriving DecidableEq, Repr

namespace NullBitmap

def reservedBits : Nat := 2

/-- The count of bytes that the bitmap of a row takes. -/
def length (columns : Nat) : Nat := (columns + 7 + reservedBits) / 8

/-- Whether a column is NULL; a column beyond the bitmap is not. -/
def isNull (bitmap : NullBitmap) (column : Nat) : Bool :=
  let bit := column + reservedBits
  match bitmap.bytes[bit / 8]? with
  | some byte => byte.toNat.testBit (bit % 8)
  | none => false

def flags (bitmap : NullBitmap) (columns : Nat) : Array Bool :=
  Array.ofFn fun column : Fin columns => bitmap.isNull column

end NullBitmap

end RowCursor
