import RowCursor.Value

/-!
# From columns to values of the caller's choice

A row hands a factory the column's metadata, the row's encoding and the column's
bytes without their length prefix.  Two factories are given: `ValueFactory.values`
decodes by type, `ValueFactory.texts` admits text columns only.
-/

set_option autoImplicit false

namespace RowCursor

/-- How a row lies in its packet. -/
inductive RowEncoding where
  /-- Every column is text behind its length. -/
  | text
  /-- A bitmap of NULL columns, then the other columns by their types. -/
  | binary
  deriving DecidableEq, Repr

/-- Makes values of type `α` out of raw columns. -/
structure ValueFactory (α : Type) where
  /-- What NULL becomes. -/
  ofNull : ColumnDefinition → Except Error α
  /-- What the bytes of a column become. -/
  ofBytes : ColumnDefinition → RowEncoding → Bytes → Except Error α

namespace ValueFactory

/-- Values by type; a column of a text row is its bytes. -/
def values : ValueFactory Value where
  ofNull _ := .ok .null
  ofBytes column encoding data :=
    match encoding with
    | .text => .ok (.bytes data)
    | .binary => Value.ofBinary column data

/-- Texts, `none` for NULL.  In a binary row only a column behind a length can be
text; the bytes must be well-formed. -/
def texts : ValueFactory (Option String) where
  ofNull _ := .ok none
  ofBytes column encoding data :=
    if encoding = .binary ∧ column.binaryLength ≠ .lengthEncoded then
      .error (.badUsage (.notText column.name column.typeId))
    else
      match Utf8.decode? data with
      | some text => .ok (some text)
      | none => .error (.badUsage (.invalidUtf8 column.name))

end ValueFactory

end RowCursor
