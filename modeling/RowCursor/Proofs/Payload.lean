import Mathlib.Tactic.SplitIfs
import RowCursor.ByteStream
import RowCursor.Proofs.Bytes

/-!
# Payloads in packets

A payload is cut into full bodies and one that is not full, so that its packets can be
told from what follows them.  The reader and the writer agree on this at every length,
multiples of the greatest body length included: a payload that was written is read back
whole, and nothing behind it is touched.
-/

set_option autoImplicit false

namespace RowCursor

/-! ## Headers -/

theorem maxBodyLength_lt : maxBodyLength < 2 ^ 24 := by decide

namespace PacketHeader

theorem length_encode (header : PacketHeader) : header.encode.length = size := by
  rw [encode, List.length_append, littleEndian_length]
  rfl

theorem decode_encode (header : PacketHeader) (small : header.length < 2 ^ 24) :
    decode header.encode = header := by
  have width : (littleEndian 3 header.length).length = 3 := littleEndian_length 3 _
  have length : ofLittleEndian ((littleEndian 3 header.length ++ [header.sequenceId]).take 3) =
      header.length := by
    rw [List.take_left' width, ofLittleEndian_littleEndian]
    omega
  have id : (littleEndian 3 header.length ++ [header.sequenceId])[3]? = some header.sequenceId := by
    rw [List.getElem?_append_right (Nat.le_of_eq width), width]
    rfl
  rw [encode, decode, length, id]
  rfl

end PacketHeader

/-! ## Cutting up -/

namespace Packet

variable {payload : Bytes}

theorem ofPayload_of_short (sequenceId : UInt8) (short : payload.length < maxBodyLength) :
    ofPayload sequenceId payload = [⟨sequenceId, payload⟩] := by
  rw [ofPayload, if_neg (Nat.not_le_of_lt short)]

theorem length_ofPayload (sequenceId : UInt8) (payload : Bytes) :
    (ofPayload sequenceId payload).length = payload.length / maxBodyLength + 1 := by
  fun_induction ofPayload sequenceId payload with
  | case1 sequenceId payload full ih =>
      have positive : 0 < maxBodyLength := by decide
      rw [List.length_cons, ih, List.length_drop, Nat.div_eq_sub_div positive full]
  | case2 sequenceId payload short =>
      rw [Nat.div_eq_of_lt (Nat.lt_of_not_le short)]
      rfl

theorem flatten_ofPayload (sequenceId : UInt8) (payload : Bytes) :
    ((ofPayload sequenceId payload).map body).flatten = payload := by
  fun_induction ofPayload sequenceId payload with
  | case1 sequenceId payload full ih =>
      rw [List.map_cons, List.flatten_cons, ih, List.take_append_drop]
  | case2 sequenceId payload short => exact List.flatten_singleton

/-- The ids count on from the first, and wrap around. -/
theorem sequenceId_ofPayload (sequenceId : UInt8) (payload : Bytes) :
    (ofPayload sequenceId payload).map (fun packet => packet.sequenceId.toNat) =
      (List.range (ofPayload sequenceId payload).length).map
        fun index => (sequenceId.toNat + index) % 256 := by
  fun_induction ofPayload sequenceId payload with
  | case1 sequenceId payload full ih =>
      have small : sequenceId.toNat < 256 := sequenceId.toNat_lt
      have next (index : Nat) :
          ((sequenceId + 1).toNat + index) % 256 = (sequenceId.toNat + (index + 1)) % 256 := by
        rw [UInt8.toNat_add, UInt8.toNat_one]
        omega
      rw [List.map_cons, ih, List.length_cons, List.range_succ_eq_map, List.map_cons, List.map_map]
      simp only [next, Nat.add_zero, Nat.mod_eq_of_lt small]
      rfl
  | case2 sequenceId payload short =>
      have small : sequenceId.toNat < 256 := sequenceId.toNat_lt
      simp [Nat.mod_eq_of_lt small]

/-- The packets carry one payload: full bodies, and then one that is not.  The ids are
left open. -/
inductive Whole : List Packet → Prop
  | last {packet : Packet} (short : packet.body.length < maxBodyLength) : Whole [packet]
  | full {packet : Packet} {packets : List Packet} (full : packet.body.length = maxBodyLength)
      (later : Whole packets) : Whole (packet :: packets)

theorem Whole.body_length_lt {packet : Packet} {packets : List Packet}
    (whole : Whole (packet :: packets)) : packet.body.length < 2 ^ 24 := by
  cases whole with
  | last short => exact Nat.lt_trans short maxBodyLength_lt
  | full full _ =>
      rw [full]
      exact maxBodyLength_lt

theorem whole_ofPayload (sequenceId : UInt8) (payload : Bytes) :
    ∃ body packets, ofPayload sequenceId payload = ⟨sequenceId, body⟩ :: packets ∧
      Whole (⟨sequenceId, body⟩ :: packets) := by
  fun_induction ofPayload sequenceId payload with
  | case1 sequenceId payload full ih =>
      obtain ⟨body, packets, same, whole⟩ := ih
      refine ⟨_, _, rfl, .full (List.length_take_of_le full) ?_⟩
      rw [same]
      exact whole
  | case2 sequenceId payload short =>
      exact ⟨payload, [], rfl, .last (Nat.lt_of_not_le short)⟩

/-- All packets of a payload but the last are full. -/
theorem Whole.exists_last {packets : List Packet} (whole : Whole packets) :
    ∃ full last, packets = full ++ [last] ∧
      (∀ packet ∈ full, packet.body.length = maxBodyLength) ∧
      last.body.length < maxBodyLength := by
  induction whole with
  | @last packet short => exact ⟨[], packet, rfl, by simp, short⟩
  | @full packet packets full _ ih =>
      obtain ⟨front, last, rfl, each, short⟩ := ih
      refine ⟨packet :: front, last, rfl, ?_, short⟩
      rw [List.forall_mem_cons]
      exact ⟨full, each⟩

end Packet

theorem encodePayload_of_short (sequenceId : UInt8) {payload : Bytes}
    (short : payload.length < maxBodyLength) :
    encodePayload sequenceId payload =
      PacketHeader.encode ⟨payload.length, sequenceId⟩ ++ payload := by
  rw [encodePayload, Packet.ofPayload_of_short sequenceId short, Packet.encodeAll, Packet.encodeAll,
    List.append_nil]
  rfl

namespace ByteStream

variable {stream : ByteStream}

/-! ## Reading -/

theorem readExact_append (stream : ByteStream) (bytes rest : Bytes) :
    readExact bytes.length { stream with unread := bytes ++ rest } =
      .ok bytes { stream with unread := rest } := by
  simp only [readExact, List.take_left', List.drop_left', if_true]

theorem readExact_header (stream : ByteStream) (header : PacketHeader) (rest : Bytes) :
    readExact PacketHeader.size { stream with unread := header.encode ++ rest } =
      .ok header.encode { stream with unread := rest } := by
  rw [← header.length_encode]
  exact stream.readExact_append header.encode rest

theorem readBodies_eq (length : Nat) (buffer : Bytes) : readBodies length buffer = (do
    let body ← readExact length
    if length ≠ maxBodyLength then return buffer ++ body
    else
      let header ← readExact PacketHeader.size
      readBodies (PacketHeader.decode header).length (buffer ++ body)) := by
  funext stream
  rw [readBodies]
  simp only [bind, EStateM.bind]
  split
  · rename_i failed
    rw [failed]
  · rename_i read
    rw [read]
    simp only
    split
    · rfl
    · simp only [EStateM.bind]
      split
      · rename_i failed
        rw [failed]
      · rename_i read
        rw [read]

theorem readBodies_encodeAll (stream : ByteStream) {packet : Packet} {packets : List Packet}
    (whole : Packet.Whole (packet :: packets)) (buffer rest : Bytes) :
    readBodies packet.body.length buffer
        { stream with unread := packet.body ++ (Packet.encodeAll packets ++ rest) } =
      .ok (buffer ++ ((packet :: packets).map Packet.body).flatten)
        { stream with unread := rest } := by
  -- The bodies that were read stand in the buffer, so the induction is over every buffer.
  induction packets generalizing packet buffer with
  | nil =>
      cases whole with
      | last short =>
          rw [readBodies_eq]
          simp only [bind, EStateM.bind, readExact_append, if_pos (Nat.ne_of_lt short),
            List.map_cons, List.map_nil, List.flatten_singleton]
          rfl
      | full _ later => cases later
  | cons next packets ih =>
      cases whole with
      | full full later =>
          have decoded := PacketHeader.decode_encode ⟨next.body.length, next.sequenceId⟩
            later.body_length_lt
          rw [readBodies_eq, Packet.encodeAll, Packet.encode, List.append_assoc, List.append_assoc]
          simp only [bind, EStateM.bind, readExact_append, if_neg (not_not_intro full),
            readExact_header, decoded, ih later]
          simp only [List.map_cons, List.flatten_cons, List.append_assoc]

/-- What whole packets carry is read, and what follows them is left. -/
theorem readPayload_encodeAll (stream : ByteStream) {packet : Packet} {packets : List Packet}
    (whole : Packet.Whole (packet :: packets)) (buffer rest : Bytes) :
    readPayload buffer { stream with unread := Packet.encodeAll (packet :: packets) ++ rest } =
      .ok (packet.sequenceId, ((packet :: packets).map Packet.body).flatten)
        { stream with unread := rest } := by
  have decoded := PacketHeader.decode_encode ⟨packet.body.length, packet.sequenceId⟩
    whole.body_length_lt
  rw [Packet.encodeAll, Packet.encode, List.append_assoc, List.append_assoc]
  simp only [readPayload, bind, EStateM.bind, pure, EStateM.pure, readExact_header, decoded,
    List.take_zero, readBodies_encodeAll stream whole, List.nil_append]

theorem readPayload_encodePayload (stream : ByteStream) (sequenceId : UInt8)
    (payload buffer rest : Bytes) :
    readPayload buffer { stream with unread := encodePayload sequenceId payload ++ rest } =
      .ok (sequenceId, payload) { stream with unread := rest } := by
  obtain ⟨body, packets, same, whole⟩ := Packet.whole_ofPayload sequenceId payload
  have bodies := Packet.flatten_ofPayload sequenceId payload
  rw [same] at bodies
  rw [encodePayload, same, stream.readPayload_encodeAll whole, bodies]

/-! ## Writing -/

theorem writeAll_nil : writeAll [] = (pure () : Step ByteStream Unit) := by
  funext stream
  cases stream with
  | mk unread endFault written room flushFault =>
      cases room with
      | none => simp [writeAll, pure, EStateM.pure]
      | some room => simp [writeAll, pure, EStateM.pure]

theorem writeAll_append (front back : Bytes) : writeAll (front ++ back) = (do
    writeAll front
    writeAll back) := by
  funext stream
  simp only [writeAll, bind, EStateM.bind]
  cases limit : stream.room with
  | none => simp only [List.append_assoc]
  | some room =>
      -- What the front takes away from the room decides how much of the back still fits.
      by_cases fits : front.length ≤ room
      · have taken : front.take room = front := List.take_of_length_le fits
        have split : (front ++ back).take room = front ++ back.take (room - front.length) := by
          rw [List.take_append, taken]
        have left : room - (front ++ back.take (room - front.length)).length =
            room - front.length - (back.take (room - front.length)).length := by
          rw [List.length_append]
          omega
        have both : (front ++ back).length ≤ room ↔ back.length ≤ room - front.length := by
          rw [List.length_append]
          omega
        simp only [taken, split, left, both, if_pos fits, List.append_assoc]
      · have early : (front ++ back).take room = front.take room :=
          List.take_append_of_le_length (Nat.le_of_not_le fits)
        have beyond : ¬(front ++ back).length ≤ room := by
          rw [List.length_append]
          omega
        simp only [early, if_neg fits, if_neg beyond]

/-- Body by body, the bytes of all packets are sent. -/
theorem writeBodies_eq (sequenceId : UInt8) (payload : Bytes) :
    writeBodies sequenceId payload = writeAll (encodePayload sequenceId payload) := by
  unfold encodePayload
  fun_induction Packet.ofPayload sequenceId payload with
  | case1 sequenceId payload full ih =>
      rw [writeBodies, if_pos full, ih, Nat.min_eq_right full, Packet.encodeAll, Packet.encode,
        List.length_take_of_le full, writeAll_append, writeAll_append, bind_assoc]
  | case2 sequenceId payload short =>
      have short : payload.length < maxBodyLength := Nat.lt_of_not_le short
      rw [writeBodies, if_neg (Nat.not_le_of_lt short), Nat.min_eq_left (Nat.le_of_lt short),
        List.take_of_length_le (Nat.le_of_lt short), Packet.encodeAll, Packet.encodeAll,
        List.append_nil, Packet.encode, writeAll_append, bind_pure_unit]

theorem writePayload_eq (sequenceId : UInt8) (payload : Bytes) :
    writePayload sequenceId payload = (do
      writeAll (encodePayload sequenceId payload)
      flush) := by
  rw [writePayload, writeBodies_eq]

/-- The stream takes everything that is sent. -/
structure Unlimited (stream : ByteStream) : Prop where
  room_eq : stream.room = none
  flushFault_eq : stream.flushFault = none

theorem Unlimited.writeAll_eq (unlimited : stream.Unlimited) (data : Bytes) :
    writeAll data stream = .ok () { stream with written := stream.written ++ data } := by
  unfold writeAll
  rw [unlimited.room_eq]

theorem Unlimited.flush_eq (unlimited : stream.Unlimited) : flush stream = .ok () stream := by
  unfold flush
  rw [unlimited.flushFault_eq]

theorem Unlimited.with_written (unlimited : stream.Unlimited) (written : Bytes) :
    Unlimited { stream with written } :=
  ⟨unlimited.room_eq, unlimited.flushFault_eq⟩

theorem Unlimited.writePayload_eq (unlimited : stream.Unlimited) (sequenceId : UInt8)
    (payload : Bytes) :
    writePayload sequenceId payload stream =
      .ok () { stream with written := stream.written ++ encodePayload sequenceId payload } := by
  have flushed := (unlimited.with_written
    (stream.written ++ encodePayload sequenceId payload)).flush_eq
  rw [ByteStream.writePayload_eq]
  simp only [bind, EStateM.bind, unlimited.writeAll_eq, flushed]

end ByteStream

/-- A payload of any length is written as full packets and one that is not full, with ids
that count on and wrap around.  Reading them, into a buffer with any contents, gives the
payload and its first id, and leaves what follows. -/
theorem payload_travels_in_packets (sequenceId : UInt8) (payload : Bytes) :
    let packets := Packet.ofPayload sequenceId payload
    packets.length = payload.length / maxBodyLength + 1 ∧
    (∃ full last, packets = full ++ [last] ∧
      (∀ packet ∈ full, packet.body.length = maxBodyLength) ∧
      last.body.length < maxBodyLength) ∧
    packets.map (fun packet => packet.sequenceId.toNat) =
      (List.range packets.length).map (fun index => (sequenceId.toNat + index) % 256) ∧
    (packets.map Packet.body).flatten = payload ∧
    (∀ (unread sent : Bytes) (endFault : StreamFault),
      ByteStream.writePayload sequenceId payload { unread, endFault, written := sent } =
        .ok () { unread, endFault, written := sent ++ Packet.encodeAll packets }) ∧
    ∀ (stream : ByteStream) (buffer rest : Bytes),
      ByteStream.readPayload buffer { stream with unread := Packet.encodeAll packets ++ rest } =
        .ok (sequenceId, payload) { stream with unread := rest } := by
  intro packets
  refine ⟨Packet.length_ofPayload sequenceId payload, ?_,
    Packet.sequenceId_ofPayload sequenceId payload, Packet.flatten_ofPayload sequenceId payload,
    ?_, ?_⟩
  · obtain ⟨body, later, same, whole⟩ := Packet.whole_ofPayload sequenceId payload
    have cut := whole.exists_last
    rw [← same] at cut
    exact cut
  · intro unread sent endFault
    exact ByteStream.Unlimited.writePayload_eq ⟨rfl, rfl⟩ sequenceId payload
  · intro stream buffer rest
    exact stream.readPayload_encodePayload sequenceId payload buffer rest

end RowCursor
