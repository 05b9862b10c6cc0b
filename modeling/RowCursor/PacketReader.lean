import RowCursor.Codec

/-!
# A read position inside a packet

A `PacketReader` is a packet together with the part of it that is still to be
read.  Every read answers the value and a reader that stands behind it; the
reader it started from stays valid, so a failed read moves nothing.
-/

set_option autoImplicit false

namespace RowCursor

/-- A packet and the part of it that is still to be read. -/
structure PacketReader where
  packet : Bytes
  remaining : Bytes
  deriving DecidableEq, Repr

namespace PacketReader

def start (packet : Bytes) : PacketReader := ⟨packet, packet⟩

/-- At a position of a packet, its end included. -/
def at? (packet : Bytes) (position : Nat) : Except Error PacketReader :=
  if position ≤ packet.length then .ok ⟨packet, packet.drop position⟩
  else .error .unexpectedEof

def position (reader : PacketReader) : Nat :=
  reader.packet.length - reader.remaining.length

def length (reader : PacketReader) : Nat := reader.packet.length

/-- Whether the packet has no bytes at all. -/
def isEmpty (reader : PacketReader) : Bool := reader.packet.isEmpty

/-- Read from where the reader stands. -/
def read {α : Type} (reader : PacketReader) (item : Reader α) :
    Except Error (α × PacketReader) :=
  match item reader.remaining with
  | .ok (value, rest) => .ok (value, { reader with remaining := rest })
  | .error error => .error error

def readInt1 (reader : PacketReader) : Except Error (UInt8 × PacketReader) :=
  reader.read Read.int1

/-- Read a length prefix; `none` is the NULL marker. -/
def readLenenc (reader : PacketReader) : Except Error (Option UInt64 × PacketReader) :=
  reader.read Read.lenencLength

def readFixed (reader : PacketReader) (width : Nat) : Except Error (Bytes × PacketReader) :=
  reader.read (Read.fixed width)

/-- Read a byte string behind its length; `none` is the NULL marker. -/
def readLenencBytes (reader : PacketReader) : Except Error (Option Bytes × PacketReader) :=
  reader.read Read.nullableStringLenenc

def skip (reader : PacketReader) (width : Nat) : Except Error PacketReader :=
  (reader.readFixed width).map Prod.snd

/-- Pass over a byte string behind its length. -/
def skipLenencBytes (reader : PacketReader) : Except Error PacketReader :=
  match reader.readLenenc with
  | .error error => .error error
  | .ok (none, behind) => .ok behind
  | .ok (some length, behind) => if 0 < length then behind.skip length.toNat else .ok behind

end PacketReader

end RowCursor
