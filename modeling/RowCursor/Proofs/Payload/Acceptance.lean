import RowCursor.Proofs.Payload

/-!
# Which streams carry a payload

Reading a payload accepts exactly the streams that begin with whole packets: any count of
full bodies and then one that is not full.  It answers what these packets carry and takes
them off the stream, and nothing else.  On every other stream, a payload that breaks off
among them, it uses up what is there and fails as the stream fails at its end.
-/

set_option autoImplicit false

namespace RowCursor

open Packet (Whole encodeAll)

/-! ## Headers -/

namespace PacketHeader

/-- Any four bytes are a header. -/
theorem encode_decode {bytes : Bytes} (complete : bytes.length = size) :
    (decode bytes).encode = bytes := by
  match bytes, complete with
  | [first, second, third, id], _ =>
      have low := littleEndian_ofLittleEndian [first, second, third]
      simp only [List.length_cons, List.length_nil] at low
      rw [encode, decode]
      simp only [List.take_succ_cons, List.take_zero, low]
      rfl

theorem length_decode_lt (bytes : Bytes) : (decode bytes).length < 2 ^ 24 := by
  have width : (bytes.take 3).length ≤ 3 := List.length_take_le 3 bytes
  calc ofLittleEndian (bytes.take 3)
      < 256 ^ (bytes.take 3).length := ofLittleEndian_lt _
    _ ≤ 256 ^ 3 := Nat.pow_le_pow_right (by decide) width

end PacketHeader

namespace ByteStream

variable {stream after : ByteStream} {buffer data payload : Bytes} {count length : Nat}
  {sequenceId : UInt8} {error : Error}

/-! ## Streams that are read -/

theorem exists_rest_of_readExact (read : readExact count stream = .ok data after) :
    ∃ rest, stream.unread = data ++ rest ∧ after = { stream with unread := rest } := by
  have split := (unread_of_readExact read).2
  unfold readExact at read
  simp only at read
  split at read
  · cases read
    exact ⟨_, split, rfl⟩
  · cases read

/-- What a read of bodies takes is the rest of whole packets, the header of the first one
apart. -/
theorem exists_packets_of_readBodies (small : length < 2 ^ 24)
    (read : readBodies length buffer stream = .ok payload after) :
    ∃ body packets rest, body.length = length ∧ (∀ id, Whole (⟨id, body⟩ :: packets)) ∧
      payload = buffer ++ (body ++ (packets.map Packet.body).flatten) ∧
      stream.unread = body ++ (encodeAll packets ++ rest) ∧
      after = { stream with unread := rest } := by
  fun_induction readBodies length buffer stream with
  | case1 => cases read
  | case2 length buffer stream body behind bodyRead short =>
      obtain ⟨rest, unread, rfl⟩ := exists_rest_of_readExact bodyRead
      have sized := (unread_of_readExact bodyRead).1
      have below : body.length < maxBodyLength := by
        rw [maxBodyLength] at short ⊢
        omega
      cases read
      refine ⟨body, [], rest, sized, fun _ => .last below, ?_, unread, rfl⟩
      rw [List.map_nil, List.flatten_nil, List.append_nil]
  | case3 => cases read
  | case4 length buffer stream body behind bodyRead full header further headerRead ih =>
      obtain ⟨_, unread, rfl⟩ := exists_rest_of_readExact bodyRead
      obtain ⟨_, others, rfl⟩ := exists_rest_of_readExact headerRead
      have sized := (unread_of_readExact bodyRead).1
      have spelled := PacketHeader.encode_decode (unread_of_readExact headerRead).1
      obtain ⟨next, packets, rest, nextSized, whole, rfl, later, rfl⟩ :=
        ih (PacketHeader.length_decode_lt header) read
      let id := (PacketHeader.decode header).sequenceId
      have carried : Packet.encode ⟨id, next⟩ = header ++ next := by
        rw [Packet.encode, nextSized]
        exact congrArg (· ++ next) spelled
      refine ⟨body, ⟨id, next⟩ :: packets, rest, sized, fun _ => .full ?_ (whole id), ?_, ?_, rfl⟩
      · rw [sized]
        exact Decidable.not_not.mp full
      · simp only [List.map_cons, List.flatten_cons, List.append_assoc]
      · dsimp only at others later
        rw [unread, others, later, encodeAll, carried]
        simp only [List.append_assoc]

/-- A payload is read exactly off whole packets. -/
theorem readPayload_eq_ok_iff :
    readPayload buffer stream = .ok (sequenceId, payload) after ↔
      ∃ first packets rest, Whole (first :: packets) ∧
        stream.unread = encodeAll (first :: packets) ++ rest ∧
        after = { stream with unread := rest } ∧ sequenceId = first.sequenceId ∧
        payload = ((first :: packets).map Packet.body).flatten := by
  constructor
  · intro read
    simp only [readPayload, bind, EStateM.bind, pure, EStateM.pure] at read
    split at read
    · rename_i header behind headerRead
      split at read
      · rename_i carried left bodiesRead
        cases read
        obtain ⟨_, unread, rfl⟩ := exists_rest_of_readExact headerRead
        have spelled := PacketHeader.encode_decode (unread_of_readExact headerRead).1
        obtain ⟨body, packets, rest, sized, whole, rfl, later, rfl⟩ :=
          exists_packets_of_readBodies (PacketHeader.length_decode_lt header) bodiesRead
        refine ⟨⟨(PacketHeader.decode header).sequenceId, body⟩, packets, rest, whole _, ?_, rfl,
          rfl, ?_⟩
        · dsimp only at later
          rw [unread, later, encodeAll, Packet.encode, sized, spelled]
          simp only [List.append_assoc]
        · rw [List.take_zero]
          rfl
      · cases read
    · cases read
  · rintro ⟨first, packets, rest, whole, unread, rfl, rfl, rfl⟩
    have same : stream = { stream with unread := encodeAll (first :: packets) ++ rest } := by
      rw [← unread]
    rw [same]
    exact stream.readPayload_encodeAll whole buffer rest

/-! ## Streams that are refused -/

theorem of_readExact_error (failed : readExact count stream = .error error after) :
    error = .io stream.endFault ∧ after = { stream with unread := [] } := by
  unfold readExact at failed
  simp only at failed
  split at failed
  · cases failed
  · cases failed
    exact ⟨rfl, rfl⟩

theorem of_readBodies_error (failed : readBodies length buffer stream = .error error after) :
    error = .io stream.endFault ∧ after = { stream with unread := [] } := by
  fun_induction readBodies length buffer stream with
  | case1 length buffer stream error after bodyFailed =>
      cases failed
      exact of_readExact_error bodyFailed
  | case2 => cases failed
  | case3 length buffer stream body behind bodyRead full error after headerFailed =>
      cases failed
      obtain ⟨_, _, rfl⟩ := exists_rest_of_readExact bodyRead
      have drained := of_readExact_error headerFailed
      exact drained
  | case4 length buffer stream body behind bodyRead full header further headerRead ih =>
      obtain ⟨_, _, rfl⟩ := exists_rest_of_readExact bodyRead
      obtain ⟨_, _, rfl⟩ := exists_rest_of_readExact headerRead
      exact ih failed

/-- A read that fails has used up the stream, and fails as the stream does at its end. -/
theorem of_readPayload_error (failed : readPayload buffer stream = .error error after) :
    error = .io stream.endFault ∧ after = { stream with unread := [] } := by
  simp only [readPayload, bind, EStateM.bind, pure, EStateM.pure] at failed
  split at failed
  · rename_i header behind headerRead
    obtain ⟨_, _, rfl⟩ := exists_rest_of_readExact headerRead
    split at failed
    · cases failed
    · rename_i bodiesFailed
      cases failed
      have drained := of_readBodies_error bodiesFailed
      exact drained
  · rename_i headerFailed
    cases failed
    exact of_readExact_error headerFailed

theorem readPayload_eq_error_iff :
    readPayload buffer stream = .error (.io stream.endFault) { stream with unread := [] } ↔
      ¬∃ packets rest, Whole packets ∧ stream.unread = encodeAll packets ++ rest := by
  constructor
  · rintro failed ⟨packets, rest, whole, unread⟩
    cases packets with
    | nil => cases whole
    | cons first packets =>
        have read : readPayload buffer stream = .ok _ _ := readPayload_eq_ok_iff.mpr
          ⟨first, packets, rest, whole, unread, rfl, rfl, rfl⟩
        rw [failed] at read
        cases read
  · intro none
    cases outcome : readPayload buffer stream with
    | ok received after =>
        obtain ⟨first, packets, rest, whole, unread, _⟩ := readPayload_eq_ok_iff.mp outcome
        exact absurd ⟨first :: packets, rest, whole, unread⟩ none
    | error error after =>
        obtain ⟨rfl, rfl⟩ := of_readPayload_error outcome
        rfl

/-- Whole packets do not begin with other whole packets. -/
theorem not_whole_of_cut {packets : List Packet} {part : Bytes} (whole : Whole packets)
    (cut : part <+: encodeAll packets) (short : part ≠ encodeAll packets) :
    ¬∃ others rest, Whole others ∧ part = encodeAll others ++ rest := by
  rintro ⟨others, rest, otherWhole, rfl⟩
  obtain ⟨missing, same⟩ := cut
  cases packets with
  | nil => cases whole
  | cons first packets =>
      cases others with
      | nil => cases otherWhole
      | cons other others =>
          -- Both readings of the same stream end at the same place.
          have one := readPayload_encodeAll { unread := [] } whole [] []
          have two := readPayload_encodeAll { unread := [] } otherWhole [] (rest ++ missing)
          rw [← List.append_assoc, same] at two
          rw [List.append_nil, two] at one
          have left : rest ++ missing = [] :=
            congrArg ByteStream.unread (EStateM.Result.ok.inj one).2
          obtain ⟨rfl, rfl⟩ := List.append_eq_nil_iff.mp left
          rw [List.append_nil] at same
          exact short same

/-! ## Exactly whole payloads -/

/-- A payload is read exactly if the stream begins with whole packets, whatever their ids;
then it is what they carry, under the id of the first one, and they are taken off the stream.
Otherwise, as when whole packets break off, the stream is used up and the read fails as the
stream does at its end. -/
theorem payload_is_read_off_whole_packets (buffer : Bytes) (stream : ByteStream) :
    (∀ sequenceId payload after,
      readPayload buffer stream = .ok (sequenceId, payload) after ↔
        ∃ first packets rest, Whole (first :: packets) ∧
          stream.unread = encodeAll (first :: packets) ++ rest ∧
          after = { stream with unread := rest } ∧ sequenceId = first.sequenceId ∧
          payload = ((first :: packets).map Packet.body).flatten) ∧
    (readPayload buffer stream = .error (.io stream.endFault) { stream with unread := [] } ↔
      ¬∃ packets rest, Whole packets ∧ stream.unread = encodeAll packets ++ rest) ∧
    ∀ packets part, Whole packets → part <+: encodeAll packets → part ≠ encodeAll packets →
      readPayload buffer { stream with unread := part } =
        .error (.io stream.endFault) { stream with unread := [] } := by
  refine ⟨fun _ _ _ => readPayload_eq_ok_iff, readPayload_eq_error_iff, ?_⟩
  intro packets part whole cut short
  have refused := not_whole_of_cut whole cut short
  exact readPayload_eq_error_iff.mpr refused

/-- A full body is continued by an empty one under any id, and refused without it. -/
theorem full_body_waits_for_its_continuation :
    let full : Packet := ⟨5, List.replicate maxBodyLength 0x61⟩
    let packets : List Packet := [full, ⟨200, []⟩]
    Whole packets ∧ full.encode <+: encodeAll packets ∧ full.encode ≠ encodeAll packets ∧
      readPayload [] { unread := full.encode } = .error (.io .endOfStream) { unread := [] } ∧
      readPayload [] { unread := encodeAll packets ++ [0x07] } =
        .ok (5, List.replicate maxBodyLength 0x61) { unread := [0x07] } := by
  intro full packets
  have whole : Whole packets := .full List.length_replicate (.last (by decide))
  have cut : full.encode <+: encodeAll packets := List.prefix_append _ _
  have short : full.encode ≠ encodeAll packets := by
    intro same
    have lengths := congrArg List.length same
    rw [show encodeAll packets = full.encode ++ [0, 0, 0, 200] from rfl, List.length_append]
      at lengths
    exact absurd lengths (by simp)
  refine ⟨whole, cut, short, ?_, ?_⟩
  · exact (payload_is_read_off_whole_packets [] { unread := [] }).2.2 packets _ whole cut short
  · apply ((payload_is_read_off_whole_packets [] _).1 _ _ _).mpr
    refine ⟨full, [⟨200, []⟩], [0x07], whole, rfl, rfl, rfl, ?_⟩
    rw [List.map_cons, List.map_singleton, List.flatten_cons, List.flatten_singleton,
      List.append_nil]

end ByteStream

end RowCursor
