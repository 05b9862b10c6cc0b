import RowCursor.BufferSet
import RowCursor.Proofs.Payload

/-!
# Framing in place

A payload goes out on one of two ways: cut up into packets that are written piece by
piece, or framed in the buffer that holds it.  Framing in place takes every payload that
fits into one packet, and then the bytes are the same; it never touches the payload.
What the buffer was used for before does not matter.
-/

set_option autoImplicit false

namespace RowCursor

/-! ## Piece by piece -/

namespace ByteStream

/-- Send packets one after the other, the header of each before its body. -/
def writePackets : List Packet → Step ByteStream Unit
  | [] => return ()
  | packet :: packets => do
    writeAll (PacketHeader.encode ⟨packet.body.length, packet.sequenceId⟩)
    writeAll packet.body
    writePackets packets

theorem writePackets_eq (packets : List Packet) :
    writePackets packets = writeAll (Packet.encodeAll packets) := by
  induction packets with
  | nil => exact writeAll_nil.symm
  | cons packet packets ih =>
      rw [writePackets, ih, Packet.encodeAll, Packet.encode, writeAll_append, writeAll_append,
        bind_assoc]

theorem writePayload_eq_writePackets (sequenceId : UInt8) (payload : Bytes) :
    writePayload sequenceId payload = (do
      writePackets (Packet.ofPayload sequenceId payload)
      flush) := by
  rw [writePackets_eq]
  exact writePayload_eq sequenceId payload

end ByteStream

/-! ## In the buffer -/

namespace BufferSet

variable {set : BufferSet} {payload : Bytes} {sequenceId : UInt8} {bound : Nat}

@[simp]
theorem length_headerRoom : headerRoom.length = PacketHeader.size := List.length_replicate

@[simp]
theorem payload_newWrite : (set.newWrite payload).payload = payload := by
  rw [newWrite, BufferSet.payload, ← length_headerRoom, List.drop_left]

@[simp]
theorem payloadLength_newWrite : (set.newWrite payload).payloadLength = payload.length := by
  rw [newWrite, payloadLength, List.length_append, length_headerRoom, Nat.add_sub_cancel_left]

theorem length_payload (set : BufferSet) : set.payload.length = set.payloadLength :=
  List.length_drop

theorem payload_of_packet (set : BufferSet) (packet : Packet) :
    BufferSet.payload { set with writeBuffer := packet.encode } = packet.body :=
  List.drop_left' (PacketHeader.length_encode _)

theorem singlePacket_of_tooLong (long : bound ≤ set.payloadLength) :
    set.singlePacket sequenceId bound = (.tooLong, set) := if_pos long

theorem singlePacket_of_headerMissing (fits : set.payloadLength < bound)
    (missing : set.writeBuffer.length < PacketHeader.size) :
    set.singlePacket sequenceId bound = (.headerMissing, set) := by
  rw [singlePacket, if_neg (Nat.not_le_of_lt fits), if_pos missing]

theorem singlePacket_of_room (fits : set.payloadLength < bound)
    (room : PacketHeader.size ≤ set.writeBuffer.length) :
    set.singlePacket sequenceId bound =
      (.packet (Packet.encode ⟨sequenceId, set.payload⟩),
        { set with writeBuffer := Packet.encode ⟨sequenceId, set.payload⟩ }) := by
  rw [singlePacket, if_neg (Nat.not_le_of_lt fits), if_neg (Nat.not_lt_of_le room),
    Packet.encode, length_payload]

/-! A payload that was just written, and the bound of one packet. -/

theorem singlePacket_of_long (sequenceId : UInt8) (long : maxBodyLength ≤ payload.length) :
    (set.newWrite payload).singlePacket sequenceId maxBodyLength =
      (.tooLong, set.newWrite payload) := by
  refine singlePacket_of_tooLong ?_
  rw [payloadLength_newWrite]
  exact long

theorem singlePacket_of_short (sequenceId : UInt8) (short : payload.length < maxBodyLength) :
    (set.newWrite payload).singlePacket sequenceId maxBodyLength =
      (.packet (encodePayload sequenceId payload),
        { set with writeBuffer := encodePayload sequenceId payload }) := by
  have fits : (set.newWrite payload).payloadLength < maxBodyLength := by
    rw [payloadLength_newWrite]
    exact short
  have room : PacketHeader.size ≤ (set.newWrite payload).writeBuffer.length := by
    rw [newWrite, List.length_append, length_headerRoom]
    exact Nat.le_add_right _ _
  rw [singlePacket_of_room fits room, payload_newWrite, encodePayload_of_short sequenceId short]
  rfl

theorem payload_singlePacket (set : BufferSet) (sequenceId : UInt8) (payload : Bytes) :
    ((set.newWrite payload).singlePacket sequenceId maxBodyLength).2.payload = payload := by
  by_cases long : maxBodyLength ≤ payload.length
  · rw [singlePacket_of_long sequenceId long]
    exact payload_newWrite
  · have short : payload.length < maxBodyLength := Nat.lt_of_not_le long
    rw [singlePacket_of_short sequenceId short, encodePayload_of_short sequenceId short]
    exact payload_of_packet set ⟨sequenceId, payload⟩

end BufferSet

end RowCursor
