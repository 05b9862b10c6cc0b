import Mathlib.Data.List.Induction
import RowCursor.Proofs.Framing

/-!
# Room for a header

Whoever starts a payload is handed the write buffer and leaves in it what he likes.  So the
room for a header is there unless the one who started the last payload cut it away; no other
use of the buffers touches it.  Without the room a payload that would fit into one packet
cannot be framed, and in every other case framing tells rightly whether the payload fits and
gives the whole packet.
-/

set_option autoImplicit false

namespace RowCursor.BufferSet

/-- What may be done with a set of buffers. -/
inductive Use where
  /-- A payload is started, and the write buffer handed out is changed. -/
  | write (change : Bytes → Bytes)
  | read (change : Bytes → Bytes)
  | frame (sequenceId : UInt8) (bound : Nat)
  | clear

namespace Use

def startsPayload : Use → Bool
  | write _ => true
  | clear => true
  | read _ => false
  | frame _ _ => false

end Use

def use (set : BufferSet) : Use → BufferSet
  | .write change =>
    let fresh := set.newWrite []
    { fresh with writeBuffer := change fresh.writeBuffer }
  | .read change => { set with readBuffer := change set.readBuffer }
  | .frame sequenceId bound => (set.singlePacket sequenceId bound).2
  | .clear => set.clear

def afterUses (set : BufferSet) (uses : List Use) : BufferSet := uses.foldl use set

/-- The use that started the payload that is in the write buffer now. -/
def lastStart? (uses : List Use) : Option Use := (uses.filter Use.startsPayload).getLast?

/-- The one who started the last payload left fewer bytes than a header has. -/
def CutShort (uses : List Use) : Prop :=
  ∃ change, lastStart? uses = some (.write change) ∧
    (change headerRoom).length < PacketHeader.size

/-! ## The length of the write buffer -/

theorem length_singlePacket (set : BufferSet) (sequenceId : UInt8) (bound : Nat) :
    (set.singlePacket sequenceId bound).2.writeBuffer.length = set.writeBuffer.length := by
  by_cases long : bound ≤ set.payloadLength
  · rw [singlePacket_of_tooLong long]
  · have fits : set.payloadLength < bound := Nat.lt_of_not_le long
    by_cases missing : set.writeBuffer.length < PacketHeader.size
    · rw [singlePacket_of_headerMissing fits missing]
    · have room : PacketHeader.size ≤ set.writeBuffer.length := Nat.le_of_not_lt missing
      rw [singlePacket_of_room fits room]
      simp only [Packet.encode, List.length_append, PacketHeader.length_encode, length_payload,
        payloadLength]
      omega

theorem lastStart?_concat (uses : List Use) (last : Use) :
    lastStart? (uses ++ [last]) = if last.startsPayload then some last else lastStart? uses := by
  cases starts : last.startsPayload with
  | true => simp [lastStart?, List.filter_append, starts]
  | false => simp [lastStart?, List.filter_append, starts]

theorem length_afterUses (uses : List Use) :
    (empty.afterUses uses).writeBuffer.length =
      match lastStart? uses with
      | some (.write change) => (change headerRoom).length
      | _ => PacketHeader.size := by
  induction uses using List.reverseRecOn with
  | nil => rfl
  | append_singleton uses last ih =>
      have goesOn : empty.afterUses (uses ++ [last]) = (empty.afterUses uses).use last := by
        rw [afterUses, List.foldl_append]
        rfl
      rw [goesOn, lastStart?_concat]
      cases last with
      | write change => simp [use, newWrite, Use.startsPayload]
      | clear => simp [use, clear, newWrite, Use.startsPayload]
      | read change => exact ih
      | frame sequenceId bound =>
          have kept : ((empty.afterUses uses).use (.frame sequenceId bound)).writeBuffer.length =
              (empty.afterUses uses).writeBuffer.length := length_singlePacket _ _ _
          rw [kept]
          exact ih

/-- The room for a header is missing exactly if it was cut away from the last payload. -/
theorem length_lt_iff_cutShort (uses : List Use) :
    (empty.afterUses uses).writeBuffer.length < PacketHeader.size ↔ CutShort uses := by
  rw [length_afterUses, CutShort]
  cases lastStart? uses with
  | none => simp
  | some start => cases start <;> simp

/-- Whatever the buffers were used for: the room for a header is there unless the one who
started the last payload left fewer bytes than that.  Framing refuses exactly the payloads
that do not fit; of the others it gives the packet, which carries the payload whole if it is
short enough for one packet, unless the room is missing.  It changes neither the payload nor the
length of the buffer. -/
theorem framed_unless_room_was_cut (uses : List Use) :
    let set := empty.afterUses uses
    (set.writeBuffer.length < PacketHeader.size ↔ CutShort uses) ∧
    ∀ (sequenceId : UInt8) (bound : Nat),
      let framed := set.singlePacket sequenceId bound
      (framed.1 = .tooLong ↔ bound ≤ set.payload.length) ∧
      (framed.1 = .headerMissing ↔ CutShort uses ∧ set.payload.length < bound) ∧
      (∀ bytes, framed.1 = .packet bytes ↔
        ¬CutShort uses ∧ set.payload.length < bound ∧
          bytes = Packet.encode ⟨sequenceId, set.payload⟩) ∧
      (set.payload.length < maxBodyLength →
        Packet.encode ⟨sequenceId, set.payload⟩ = encodePayload sequenceId set.payload) ∧
      framed.2.payload = set.payload ∧ framed.2.readBuffer = set.readBuffer ∧
        framed.2.writeBuffer.length = set.writeBuffer.length := by
  intro set
  have cut : set.writeBuffer.length < PacketHeader.size ↔ CutShort uses :=
    length_lt_iff_cutShort uses
  refine ⟨cut, ?_⟩
  intro sequenceId bound framed
  have whole : set.payload.length < maxBodyLength →
      Packet.encode ⟨sequenceId, set.payload⟩ = encodePayload sequenceId set.payload :=
    fun short => (encodePayload_of_short sequenceId short).symm
  have length := length_singlePacket set sequenceId bound
  by_cases long : bound ≤ set.payload.length
  · have same : framed = (.tooLong, set) :=
      singlePacket_of_tooLong (by rwa [length_payload] at long)
    have beyond : ¬set.payload.length < bound := Nat.not_lt_of_le long
    rw [same]
    refine ⟨iff_of_true rfl long, ?_, ?_, whole, rfl, rfl, rfl⟩
    · simp [beyond]
    · simp [beyond]
  · have fits : set.payload.length < bound := Nat.lt_of_not_le long
    have below : set.payloadLength < bound := by rwa [length_payload] at fits
    by_cases missing : CutShort uses
    · have same : framed = (.headerMissing, set) :=
        singlePacket_of_headerMissing below (cut.mpr missing)
      rw [same]
      refine ⟨?_, iff_of_true rfl ⟨missing, fits⟩, ?_, whole, rfl, rfl, rfl⟩
      · simp [fits]
      · simp [missing]
    · have room : PacketHeader.size ≤ set.writeBuffer.length :=
        Nat.le_of_not_lt fun short => missing (cut.mp short)
      have same : framed = _ := singlePacket_of_room below room
      refine ⟨?_, ?_, ?_, whole, ?_, ?_, length⟩
      · simp [same, fits]
      · simp [same, missing]
      · simp [same, missing, fits, eq_comm]
      · rw [same]
        exact payload_of_packet set _
      · rw [same]

/-- A write buffer that was cut to three bytes has no room for a header, and yet its payload is
empty and shorter than the bound. -/
theorem cut_buffer_is_not_framed :
    let set := empty.newWriteTruncated 3
    set = empty.afterUses [.write (List.take 3)] ∧ set.writeBuffer.length = 3 ∧
      set.payloadLength = 0 ∧ set.payload = [] ∧ set.singlePacket 0 16 = (.headerMissing, set) := by
  decide

end RowCursor.BufferSet
