import RowCursor.PacketReader
import RowCursor.Proofs.Codec

/-!
# Readers stay inside their packet

A reader that was placed in a packet, and every reader that a read or a skip makes of
it, has the end of that packet left to read.  So its position says all about it:
placing a reader there again gives the same reader.
-/

set_option autoImplicit false

namespace RowCursor.PacketReader

variable {α : Type} {packet : Bytes} {reader behind : PacketReader}

/-- The reader reads this packet, and what remains is the packet's end. -/
structure StandsIn (reader : PacketReader) (packet : Bytes) : Prop where
  packet_eq : reader.packet = packet
  remaining_suffix : reader.remaining <:+ packet

namespace StandsIn

theorem position_le (stands : reader.StandsIn packet) : reader.position ≤ packet.length := by
  rw [position, stands.packet_eq]
  exact Nat.sub_le _ _

theorem remaining_eq (stands : reader.StandsIn packet) :
    reader.remaining = packet.drop reader.position := by
  rw [position, stands.packet_eq]
  exact List.suffix_iff_eq_drop.mp stands.remaining_suffix

theorem at?_position (stands : reader.StandsIn packet) :
    at? packet reader.position = .ok reader := by
  rw [at?, if_pos stands.position_le, ← stands.remaining_eq, ← stands.packet_eq]

/-- A reader that has taken some bytes more stands in the same packet. -/
theorem of_used {used : Bytes} (stands : reader.StandsIn packet)
    (same : behind.packet = reader.packet)
    (parted : reader.remaining = used ++ behind.remaining) : behind.StandsIn packet := by
  have suffix : behind.remaining <:+ reader.remaining := ⟨used, parted.symm⟩
  exact ⟨same.trans stands.packet_eq, suffix.trans stands.remaining_suffix⟩

end StandsIn

theorem at?_of_le {position : Nat} (inside : position ≤ packet.length) :
    at? packet position = .ok ⟨packet, packet.drop position⟩ :=
  if_pos inside

theorem standsIn_drop (packet : Bytes) (position : Nat) :
    StandsIn ⟨packet, packet.drop position⟩ packet :=
  ⟨rfl, List.drop_suffix position packet⟩

theorem position_drop {position : Nat} (inside : position ≤ packet.length) :
    PacketReader.position ⟨packet, packet.drop position⟩ = position := by
  simp only [PacketReader.position, List.length_drop]
  omega

/-! ## Reads and skips -/

/-- What a read takes stands next, and read alone it gives the same value. -/
theorem exists_used_of_read {item : Reader α} (takes : Read.TakesPrefix item) {value : α}
    (read : reader.read item = .ok (value, behind)) :
    ∃ used, item used = .ok (value, []) ∧ behind.packet = reader.packet ∧
      reader.remaining = used ++ behind.remaining := by
  unfold PacketReader.read at read
  split at read
  · rename_i taken rest item_eq
    cases read
    obtain ⟨used, parted, again⟩ := takes _ _ _ item_eq
    have alone := again []
    rw [List.append_nil] at alone
    exact ⟨used, alone, rfl, parted⟩
  · cases read

theorem standsIn_of_read {item : Reader α} (takes : Read.TakesPrefix item)
    (stands : reader.StandsIn packet) {value : α}
    (read : reader.read item = .ok (value, behind)) : behind.StandsIn packet := by
  obtain ⟨used, _, same, parted⟩ := exists_used_of_read takes read
  exact stands.of_used same parted

theorem map_snd_eq_ok_iff {result : Except Error (α × PacketReader)} :
    result.map Prod.snd = .ok behind ↔ ∃ value, result = .ok (value, behind) := by
  cases result with
  | error error => simp [Except.map]
  | ok pair =>
      obtain ⟨value, after⟩ := pair
      simp [Except.map]

theorem skip_eq_ok_iff {width : Nat} :
    reader.skip width = .ok behind ↔ ∃ bytes, reader.readFixed width = .ok (bytes, behind) :=
  map_snd_eq_ok_iff

/-- Passing over a byte string ends where reading it ends, and fails as that fails. -/
theorem skipLenencBytes_eq (reader : PacketReader) :
    reader.skipLenencBytes = reader.readLenencBytes.map Prod.snd := by
  rw [skipLenencBytes, readLenenc, readLenencBytes, read, read, Read.nullableStringLenenc,
    Read.bind_apply]
  cases Read.lenencLength reader.remaining with
  | error error => rfl
  | ok pair =>
      obtain ⟨length, rest⟩ := pair
      cases length with
      | none => rfl
      | some length =>
          simp only [Read.bind_apply]
          by_cases filled : 0 < length
          · rw [if_pos filled, skip, readFixed, read]
            cases Read.fixed length.toNat rest <;> rfl
          · -- An empty string is read without a look at what follows.
            have zero : length.toNat = 0 := by
              rw [UInt64.lt_iff_toNat_lt] at filled
              exact Nat.eq_zero_of_not_pos filled
            rw [if_neg filled, zero, Read.fixed_eq, if_pos (Nat.zero_le _)]
            rfl

theorem standsIn_of_skip {width : Nat} (stands : reader.StandsIn packet)
    (skipped : reader.skip width = .ok behind) : behind.StandsIn packet := by
  obtain ⟨bytes, read⟩ := skip_eq_ok_iff.mp skipped
  exact standsIn_of_read (Read.takesPrefix_fixed width) stands read

theorem standsIn_of_skipLenencBytes (stands : reader.StandsIn packet)
    (skipped : reader.skipLenencBytes = .ok behind) : behind.StandsIn packet := by
  rw [skipLenencBytes_eq] at skipped
  obtain ⟨value, read⟩ := map_snd_eq_ok_iff.mp skipped
  exact standsIn_of_read Read.takesPrefix_nullableStringLenenc stands read

/-! ## Reading what was written -/

theorem read_of_reads {item : Reader α} {bytes : Bytes} {value : α}
    (reads : Read.Reads item bytes value) (packet rest : Bytes) :
    read ⟨packet, bytes ++ rest⟩ item = .ok (value, ⟨packet, rest⟩) := by
  simp only [read, reads rest]

theorem read_of_cut {item : Reader α} {bytes part : Bytes} {value : α} (waits : Read.Waits item)
    (reads : Read.Reads item bytes value) (packet : Bytes) (cut : part <+: bytes)
    (short : part ≠ bytes) : read ⟨packet, part⟩ item = .error .unexpectedEof := by
  simp only [read, Read.unexpectedEof_of_cut waits reads cut short]

theorem readFixed_append (packet bytes rest : Bytes) :
    readFixed ⟨packet, bytes ++ rest⟩ bytes.length = .ok (bytes, ⟨packet, rest⟩) :=
  read_of_reads (Read.fixed_append bytes) packet rest

theorem skip_append (packet bytes rest : Bytes) :
    skip ⟨packet, bytes ++ rest⟩ bytes.length = .ok ⟨packet, rest⟩ :=
  skip_eq_ok_iff.mpr ⟨bytes, readFixed_append packet bytes rest⟩

theorem readLenencBytes_write (packet : Bytes) {data : Bytes} (countable : data.length < 2 ^ 63)
    (rest : Bytes) :
    readLenencBytes ⟨packet, Write.bytesLenenc data ++ rest⟩ =
      .ok (some data, ⟨packet, rest⟩) :=
  read_of_reads (Read.nullableStringLenenc_write countable) packet rest

theorem skipLenencBytes_write (packet : Bytes) {data : Bytes} (countable : data.length < 2 ^ 63)
    (rest : Bytes) :
    skipLenencBytes ⟨packet, Write.bytesLenenc data ++ rest⟩ = .ok ⟨packet, rest⟩ := by
  rw [skipLenencBytes_eq, readLenencBytes_write packet countable]
  rfl

end RowCursor.PacketReader
