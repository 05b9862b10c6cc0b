import RowCursor.Codec

/-!
# Packets

A payload travels in packets: a header with the body's length in three bytes and a
sequence id, then the body.  A body of the greatest length is always continued by
another packet, so a payload whose length is a multiple of it ends with an empty
body.  `Packet.ofPayload` cuts a payload up; the ids count on and wrap around.
-/

set_option autoImplicit false

namespace RowCursor

/-- The greatest length of a packet's body. -/
def maxBodyLength : Nat := 0xFFFFFF

/-- What stands before a packet's body. -/
structure PacketHeader where
  /-- The length of the body, below 2^24. -/
  length : Nat
  sequenceId : UInt8
  deriving DecidableEq, Repr

namespace PacketHeader

def size : Nat := 4

/-- The bytes of a header; of the length, the low three bytes are kept. -/
def encode (header : PacketHeader) : Bytes :=
  littleEndian 3 header.length ++ [header.sequenceId]

/-- The header that the first four bytes spell. -/
def decode (bytes : Bytes) : PacketHeader :=
  ⟨ofLittleEndian (bytes.take 3), bytes[3]?.getD 0⟩

end PacketHeader

structure Packet where
  sequenceId : UInt8
  body : Bytes
  deriving DecidableEq, Repr

namespace Packet

def encode (packet : Packet) : Bytes :=
  PacketHeader.encode ⟨packet.body.length, packet.sequenceId⟩ ++ packet.body

def encodeAll : List Packet → Bytes
  | [] => []
  | packet :: rest => packet.encode ++ encodeAll rest

/-- The packets of a payload, the first one with the given sequence id: full bodies, then one
that is not. -/
def ofPayload (sequenceId : UInt8) (payload : Bytes) : List Packet :=
  if maxBodyLength ≤ payload.length then
    ⟨sequenceId, payload.take maxBodyLength⟩ ::
      ofPayload (sequenceId + 1) (payload.drop maxBodyLength)
  else [⟨sequenceId, payload⟩]
termination_by payload.length
decreasing_by
  simp only [List.length_drop, maxBodyLength] at *
  omega

end Packet

/-- All bytes that carry a payload. -/
def encodePayload (sequenceId : UInt8) (payload : Bytes) : Bytes :=
  Packet.encodeAll (Packet.ofPayload sequenceId payload)

end RowCursor
