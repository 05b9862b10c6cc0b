import RowCursor.Packet
import RowCursor.Step

/-!
# Byte streams

A stream as the client sees it: the bytes that will arrive, and the bytes that were
sent.  A read takes exactly as many bytes as it asks for; if there are fewer, all of
them are used up and the read fails.  A stream may accept only so many bytes, and
its flush may fail.

On a stream, payloads travel as packets.  `readPayload` puts them together again and
`writePayload` cuts them up.
-/

set_option autoImplicit false

namespace RowCursor

/-- A stream of bytes in both directions. -/
structure ByteStream where
  /-- What will arrive. -/
  unread : Bytes
  /-- The failure of a read past the end. -/
  endFault : StreamFault := .endOfStream
  /-- What was sent. -/
  written : Bytes := []
  /-- How many more bytes are accepted; `none` is no limit. -/
  room : Option Nat := none
  /-- The failure of a flush, if it fails. -/
  flushFault : Option StreamFault := none
  deriving DecidableEq, Repr

namespace ByteStream

/-! ## Bytes -/

def readExact (count : Nat) : Step ByteStream Bytes := fun stream =>
  let taken := stream.unread.take count
  if taken.length = count then .ok taken { stream with unread := stream.unread.drop count }
  else .error (.io stream.endFault) { stream with unread := [] }

/-- Send bytes.  Those that find no room are lost. -/
def writeAll (data : Bytes) : Step ByteStream Unit := fun stream =>
  match stream.room with
  | none => .ok () { stream with written := stream.written ++ data }
  | some room =>
    let accepted := data.take room
    let stream := { stream with
      written := stream.written ++ accepted
      room := some (room - accepted.length) }
    if data.length ≤ room then .ok () stream else .error (.io .writeStalled) stream

def flush : Step ByteStream Unit := fun stream =>
  match stream.flushFault with
  | none => .ok () stream
  | some fault => .error (.io fault) stream

theorem unread_of_readExact {count : Nat} {data : Bytes} {before after : ByteStream}
    (read : readExact count before = .ok data after) :
    data.length = count ∧ before.unread = data ++ after.unread := by
  unfold readExact at read
  simp only at read
  split at read
  · rename_i enough
    cases read
    exact ⟨enough, (List.take_append_drop count before.unread).symm⟩
  · simp at read

/-! ## Payloads -/

/-- Read the body of a packet behind what the buffer holds, and the packets that continue
it. -/
def readBodies (length : Nat) (buffer : Bytes) : Step ByteStream Bytes := fun stream =>
  match _bodyRead : readExact length stream with
  | .error error stream => .error error stream
  | .ok body behind =>
    if length ≠ maxBodyLength then .ok (buffer ++ body) behind
    else
      match _headerRead : readExact PacketHeader.size behind with
      | .error error stream => .error error stream
      | .ok header rest =>
        readBodies (PacketHeader.decode header).length (buffer ++ body) rest
termination_by stream => stream.unread.length
decreasing_by
  have first := (unread_of_readExact _bodyRead).2
  have second := unread_of_readExact _headerRead
  have firstLength := congrArg List.length first
  have secondLength := congrArg List.length second.2
  have _size := second.1
  simp only [List.length_append, PacketHeader.size] at *
  omega

/-- Read a complete payload into a buffer, which is emptied first, with the sequence id of
the first packet. -/
def readPayload (buffer : Bytes) : Step ByteStream (UInt8 × Bytes) := do
  let header := PacketHeader.decode (← readExact PacketHeader.size)
  let payload ← readBodies header.length (buffer.take 0)
  return (header.sequenceId, payload)

/-- Send a payload body by body, each behind its header, the first one with the given sequence
id.  A full body is always followed by another, which may be empty. -/
def writeBodies (sequenceId : UInt8) (payload : Bytes) : Step ByteStream Unit := do
  writeAll (PacketHeader.encode ⟨min payload.length maxBodyLength, sequenceId⟩)
  writeAll (payload.take maxBodyLength)
  if maxBodyLength ≤ payload.length then
    writeBodies (sequenceId + 1) (payload.drop maxBodyLength)
termination_by payload.length
decreasing_by
  simp only [List.length_drop, maxBodyLength] at *
  omega

/-- Send a payload as packets, the first one with the given sequence id. -/
def writePayload (sequenceId : UInt8) (payload : Bytes) : Step ByteStream Unit := do
  writeBodies sequenceId payload
  flush

theorem unread_of_writeAll {data : Bytes} {before after : ByteStream}
    (sent : writeAll data before = .ok () after) : after.unread = before.unread := by
  unfold writeAll at sent
  split at sent
  · cases sent
    rfl
  · simp only at sent
    split at sent
    · cases sent
      rfl
    · simp at sent

theorem unread_of_flush {before after : ByteStream} (flushed : flush before = .ok () after) :
    after.unread = before.unread := by
  unfold flush at flushed
  split at flushed
  · cases flushed
    rfl
  · simp at flushed

theorem unread_of_writeBodies {sequenceId : UInt8} {payload : Bytes}
    {before after : ByteStream} (sent : writeBodies sequenceId payload before = .ok () after) :
    after.unread = before.unread := by
  fun_induction writeBodies sequenceId payload generalizing before with
  | case1 sequenceId payload ih =>
      simp only [bind, EStateM.bind] at sent
      split at sent
      · rename_i headerSent
        split at sent
        · rename_i bodySent
          have kept := (unread_of_writeAll bodySent).trans (unread_of_writeAll headerSent)
          split at sent
          · rename_i full
            rw [ih full sent, kept]
          · cases sent
            exact kept
        · simp at sent
      · simp at sent

theorem unread_of_writePayload {sequenceId : UInt8} {payload : Bytes}
    {before after : ByteStream} (sent : writePayload sequenceId payload before = .ok () after) :
    after.unread = before.unread := by
  simp only [writePayload, bind, EStateM.bind] at sent
  split at sent
  · rename_i written
    rw [unread_of_flush sent, unread_of_writeBodies written]
  · simp at sent

theorem unread_of_readBodies {payload : Bytes} (length : Nat) (buffer : Bytes)
    (before : ByteStream) {after : ByteStream}
    (read : readBodies length buffer before = .ok payload after) :
    after.unread.length + length ≤ before.unread.length := by
  fun_induction readBodies length buffer before with
  | case1 => simp at read
  | case2 length buffer before body behind bodyRead _ =>
      have first := unread_of_readExact bodyRead
      have firstLength := congrArg List.length first.2
      cases read
      simp only [List.length_append] at firstLength
      omega
  | case3 => simp at read
  | case4 length buffer before body behind bodyRead _ header rest headerRead ih =>
      have first := unread_of_readExact bodyRead
      have second := unread_of_readExact headerRead
      have firstLength := congrArg List.length first.2
      have secondLength := congrArg List.length second.2
      have later := ih read
      simp only [List.length_append] at firstLength secondLength
      omega

theorem unread_of_readPayload {buffer : Bytes} {sequenceId : UInt8} {payload : Bytes}
    {before after : ByteStream}
    (read : readPayload buffer before = .ok (sequenceId, payload) after) :
    after.unread.length < before.unread.length := by
  simp only [readPayload, bind, EStateM.bind, pure, EStateM.pure] at read
  split at read
  · rename_i header behind headerRead
    split at read
    · rename_i body rest bodiesRead
      cases read
      have first := unread_of_readExact headerRead
      have firstLength := congrArg List.length first.2
      have later := unread_of_readBodies _ _ _ bodiesRead
      simp only [List.length_append, PacketHeader.size] at *
      omega
    · simp at read
  · simp at read

end ByteStream

end RowCursor
