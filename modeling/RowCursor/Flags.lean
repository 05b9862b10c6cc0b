/-!
# Flag words

Capabilities, server status, column attributes and the cursor request are words
whose single bits have names.  A flag word keeps its named bits only; every other
bit of the number it is read from is dropped.
-/

set_option autoImplicit false

namespace RowCursor

/-! ## Tables of names -/

/-- The flags of one kind of word: name and value of each, in their fixed order. -/
abbrev FlagTable := List (String × Nat)

namespace FlagTable

def mask (table : FlagTable) : Nat :=
  table.foldl (fun bits flag => bits ||| flag.2) 0

def truncate (table : FlagTable) (bits : Nat) : Nat :=
  bits &&& table.mask

def covers (table : FlagTable) (bits : Nat) : Bool :=
  table.truncate bits == bits

/-- The names of the flags that are set.  A flag without a bit is never set. -/
def names (table : FlagTable) (bits : Nat) : List String :=
  (table.filter fun flag => flag.2 != 0 && bits &&& flag.2 == flag.2).map Prod.fst

end FlagTable

/-! ## Capabilities -/

/-- What client and server agreed on. -/
structure CapabilityFlags where
  bits : UInt32
  deriving DecidableEq, Repr, Inhabited

namespace CapabilityFlags

/-- The capability flags; every bit of the word has a name. -/
def table : FlagTable := [
  ("CLIENT_LONG_PASSWORD", 0x00000001),
  ("CLIENT_FOUND_ROWS", 0x00000002),
  ("CLIENT_LONG_FLAG", 0x00000004),
  ("CLIENT_CONNECT_WITH_DB", 0x00000008),
  ("CLIENT_NO_SCHEMA", 0x00000010),
  ("CLIENT_COMPRESS", 0x00000020),
  ("CLIENT_ODBC", 0x00000040),
  ("CLIENT_LOCAL_FILES", 0x00000080),
  ("CLIENT_IGNORE_SPACE", 0x00000100),
  ("CLIENT_PROTOCOL_41", 0x00000200),
  ("CLIENT_INTERACTIVE", 0x00000400),
  ("CLIENT_SSL", 0x00000800),
  ("CLIENT_IGNORE_SIGPIPE", 0x00001000),
  ("CLIENT_TRANSACTIONS", 0x00002000),
  ("CLIENT_RESERVED", 0x00004000),
  ("CLIENT_SECURE_CONNECTION", 0x00008000),
  ("CLIENT_MULTI_STATEMENTS", 0x00010000),
  ("CLIENT_MULTI_RESULTS", 0x00020000),
  ("CLIENT_PS_MULTI_RESULTS", 0x00040000),
  ("CLIENT_PLUGIN_AUTH", 0x00080000),
  ("CLIENT_CONNECT_ATTRS", 0x00100000),
  ("CLIENT_PLUGIN_AUTH_LENENC_CLIENT_DATA", 0x00200000),
  ("CLIENT_CAN_HANDLE_EXPIRED_PASSWORDS", 0x00400000),
  ("CLIENT_SESSION_TRACK", 0x00800000),
  ("CLIENT_DEPRECATE_EOF", 0x01000000),
  ("CLIENT_OPTIONAL_RESULTSET_METADATA", 0x02000000),
  ("CLIENT_ZSTD_COMPRESSION_ALGORITHM", 0x04000000),
  ("CLIENT_QUERY_ATTRIBUTES", 0x08000000),
  ("CLIENT_MULTI_FACTOR_AUTHENTICATION", 0x10000000),
  ("CLIENT_CAPABILITY_EXTENSION", 0x20000000),
  ("CLIENT_SSL_VERIFY_SERVER_CERT", 0x40000000),
  ("CLIENT_REMEMBER_OPTIONS", 0x80000000)]

def ofBits (bits : UInt32) : CapabilityFlags := ⟨bits⟩

example : table.mask = 2 ^ 32 - 1 := by decide

/-- Whether an OK packet, instead of an EOF packet, ends the rows. -/
def deprecateEof (flags : CapabilityFlags) : Bool :=
  flags.bits &&& 0x01000000 != 0

end CapabilityFlags

/-! ## Server status -/

/-- The server's state, as a packet that ends a response reports it. -/
structure StatusFlags where
  bits : UInt16
  deriving DecidableEq, Repr, Inhabited

namespace StatusFlags

/-- The status flags; two bits of the word have no name. -/
def table : FlagTable := [
  ("SERVER_STATUS_IN_TRANS", 0x0001),
  ("SERVER_STATUS_AUTOCOMMIT", 0x0002),
  ("SERVER_MORE_RESULTS_EXISTS", 0x0008),
  ("SERVER_STATUS_NO_GOOD_INDEX_USED", 0x0010),
  ("SERVER_STATUS_NO_INDEX_USED", 0x0020),
  ("SERVER_STATUS_CURSOR_EXISTS", 0x0040),
  ("SERVER_STATUS_LAST_ROW_SENT", 0x0080),
  ("SERVER_STATUS_DB_DROPPED", 0x0100),
  ("SERVER_STATUS_NO_BACKSLASH_ESCAPES", 0x0200),
  ("SERVER_STATUS_METADATA_CHANGED", 0x0400),
  ("SERVER_QUERY_WAS_SLOW", 0x0800),
  ("SERVER_PS_OUT_PARAMS", 0x1000),
  ("SERVER_STATUS_IN_TRANS_READONLY", 0x2000),
  ("SERVER_SESSION_STATE_CHANGED", 0x4000)]

def known : UInt16 := 0x7FFB

example : table.mask = known.toNat := by decide

def ofBits (bits : UInt16) : StatusFlags := ⟨bits &&& known⟩

def none : StatusFlags := ⟨0⟩

/-- Whether the server keeps the result in a cursor. -/
def cursorExists (flags : StatusFlags) : Bool :=
  flags.bits &&& 0x0040 != 0

/-- Whether the last row of the cursor has been sent. -/
def lastRowSent (flags : StatusFlags) : Bool :=
  flags.bits &&& 0x0080 != 0

end StatusFlags

/-! ## Column attributes -/

/-- The attributes of a column. -/
structure ColumnFlags where
  bits : UInt16
  deriving DecidableEq, Repr, Inhabited

namespace ColumnFlags

/-- The column flags; every bit of the word has a name. -/
def table : FlagTable := [
  ("NOT_NULL_FLAG", 0x0001),
  ("PRI_KEY_FLAG", 0x0002),
  ("UNIQUE_KEY_FLAG", 0x0004),
  ("MULTIPLE_KEY_FLAG", 0x0008),
  ("BLOB_FLAG", 0x0010),
  ("UNSIGNED_FLAG", 0x0020),
  ("ZEROFILL_FLAG", 0x0040),
  ("BINARY_FLAG", 0x0080),
  ("ENUM_FLAG", 0x0100),
  ("AUTO_INCREMENT_FLAG", 0x0200),
  ("TIMESTAMP_FLAG", 0x0400),
  ("SET_FLAG", 0x0800),
  ("NO_DEFAULT_VALUE_FLAG", 0x1000),
  ("ON_UPDATE_NOW_FLAG", 0x2000),
  ("PART_KEY_FLAG", 0x4000),
  ("NUM_FLAG", 0x8000)]

def ofBits (bits : UInt16) : ColumnFlags := ⟨bits⟩

example : table.mask = 2 ^ 16 - 1 := by decide

/-- Whether the numbers of the column have no sign. -/
def unsigned (flags : ColumnFlags) : Bool :=
  flags.bits &&& 0x0020 != 0

end ColumnFlags

/-! ## Kinds of cursor -/

/-- The kind of cursor that an execute command asks for. -/
structure CursorKind where
  bits : UInt8
  deriving DecidableEq, Repr, Inhabited

namespace CursorKind

/-- The kinds of cursor; asking for none has no bit. -/
def table : FlagTable := [
  ("CURSOR_TYPE_NO_CURSOR", 0x00),
  ("CURSOR_TYPE_READ_ONLY", 0x01),
  ("CURSOR_TYPE_FOR_UPDATE", 0x02),
  ("CURSOR_TYPE_SCROLLABLE", 0x04)]

def known : UInt8 := 0x07

example : table.mask = known.toNat := by decide

def ofBits (bits : UInt8) : CursorKind := ⟨bits &&& known⟩

/-- A cursor that is read from first row to last. -/
def readOnly : CursorKind := ⟨0x01⟩

end CursorKind

end RowCursor
