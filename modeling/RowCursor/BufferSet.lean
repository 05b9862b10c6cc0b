import RowCursor.Packet

/-!
# Reusable buffers

A buffer set has one buffer for reading and one for writing.  The write buffer
keeps room for a packet header in front of the payload, so that a payload that fits
into one packet is framed in place.  Whoever fills the write buffer may also shorten
it; framing a buffer without room for a header is a failure of its own.
-/

set_option autoImplicit false

namespace RowCursor

structure BufferSet where
  readBuffer : Bytes
  /-- Room for a header, then the payload. -/
  writeBuffer : Bytes
  deriving DecidableEq, Repr

/-- What framing a write buffer in place comes to. -/
inductive Framing where
  /-- The complete packet. -/
  | packet (bytes : Bytes)
  /-- The payload has to be split. -/
  | tooLong
  /-- There is no room for the header. -/
  | headerMissing
  deriving DecidableEq, Repr

namespace BufferSet

/-- The room that is kept for a header. -/
def headerRoom : Bytes := List.replicate PacketHeader.size 0

def empty : BufferSet := ⟨[], headerRoom⟩

/-- Start a new payload. -/
def newWrite (set : BufferSet) (payload : Bytes) : BufferSet :=
  { set with writeBuffer := headerRoom ++ payload }

/-- Start a new payload and cut the write buffer, header room included, to a length. -/
def newWriteTruncated (set : BufferSet) (length : Nat) : BufferSet :=
  { set with writeBuffer := headerRoom.take length }

def readExtend (set : BufferSet) (data : Bytes) : BufferSet :=
  { set with readBuffer := set.readBuffer ++ data }

def readClear (set : BufferSet) : BufferSet :=
  { set with readBuffer := [] }

def clear (set : BufferSet) : BufferSet :=
  set.readClear.newWrite []

def payloadLength (set : BufferSet) : Nat :=
  set.writeBuffer.length - PacketHeader.size

def payload (set : BufferSet) : Bytes :=
  set.writeBuffer.drop PacketHeader.size

/-- Fill in the header of a payload that is shorter than `bound`. -/
def singlePacket (set : BufferSet) (sequenceId : UInt8) (bound : Nat) : Framing × BufferSet :=
  if bound ≤ set.payloadLength then (.tooLong, set)
  else if set.writeBuffer.length < PacketHeader.size then (.headerMissing, set)
  else
    let bytes := PacketHeader.encode ⟨set.payloadLength, sequenceId⟩ ++ set.payload
    (.packet bytes, { set with writeBuffer := bytes })

/-- A byte string as a list of numbers. -/
def describeBytes (data : Bytes) : String :=
  "[" ++ ", ".intercalate (data.map fun byte => toString byte.toNat) ++ "]"

/-- Both buffers on one line, for diagnostics. -/
def describe (set : BufferSet) : String :=
  "BufferSet \x7b read_buffer: " ++ describeBytes set.readBuffer ++
    ", write_buffer: " ++ describeBytes set.writeBuffer ++ " \x7d"

end BufferSet

end RowCursor
