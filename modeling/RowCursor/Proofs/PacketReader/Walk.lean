import RowCursor.Proofs.Codec.Width
import RowCursor.Proofs.PacketReader

/-!
# Walks through a packet

Whatever is read of a packet and passed over, one after the other, the reader stays inside the
packet and never goes back.  Each move that succeeds takes the bytes that stand next, just
those that its datum is read off, and the position grows by their count.  Passing over a datum
and reading it are the same move, so a walk that only passes over data ends where one that
reads them would, or fails as that fails.
-/

set_option autoImplicit false

namespace RowCursor.PacketReader

variable {α : Type} {packet : Bytes} {reader next : PacketReader}

/-- What moves a reader on. -/
inductive Move where
  | readInt1
  | readLenenc
  | readFixed (width : Nat)
  | readLenencBytes
  | skip (width : Nat)
  | skipLenencBytes
  deriving DecidableEq, Repr

namespace Move

/-- The bytes are one datum of the kind that the move reads or passes over. -/
def Takes : Move → Bytes → Prop
  | readInt1, bytes => bytes.length = 1
  | readLenenc, bytes => ∃ length, Read.lenencLength bytes = .ok (length, [])
  | readFixed width, bytes | skip width, bytes => bytes.length = width
  | readLenencBytes, bytes | skipLenencBytes, bytes =>
    ∃ value, Read.nullableStringLenenc bytes = .ok (value, [])

end Move

/-- The reader behind a move, whatever the move reads. -/
def move (reader : PacketReader) : Move → Except Error PacketReader
  | .readInt1 => reader.readInt1.map Prod.snd
  | .readLenenc => reader.readLenenc.map Prod.snd
  | .readFixed width => (reader.readFixed width).map Prod.snd
  | .readLenencBytes => reader.readLenencBytes.map Prod.snd
  | .skip width => reader.skip width
  | .skipLenencBytes => reader.skipLenencBytes

/-- Where a move leads; one that fails leaves the reader where it is. -/
def afterMove (reader : PacketReader) (made : Move) : PacketReader :=
  match reader.move made with
  | .ok next => next
  | .error _ => reader

def afterMoves (reader : PacketReader) (moves : List Move) : PacketReader :=
  moves.foldl afterMove reader

/-! ## One move -/

theorem exists_used_of_map_read {item : Reader α} (takes : Read.TakesPrefix item)
    (moved : (reader.read item).map Prod.snd = .ok next) :
    ∃ used, (∃ value, item used = .ok (value, [])) ∧ next.packet = reader.packet ∧
      reader.remaining = used ++ next.remaining := by
  obtain ⟨value, read⟩ := map_snd_eq_ok_iff.mp moved
  obtain ⟨used, alone, same, parted⟩ := exists_used_of_read takes read
  exact ⟨used, ⟨value, alone⟩, same, parted⟩

theorem exists_used_of_skip {width : Nat} (skipped : reader.skip width = .ok next) :
    ∃ used : Bytes, used.length = width ∧ next.packet = reader.packet ∧
      reader.remaining = used ++ next.remaining := by
  obtain ⟨bytes, read⟩ := skip_eq_ok_iff.mp skipped
  obtain ⟨used, alone, same, parted⟩ := exists_used_of_read (Read.takesPrefix_fixed width) read
  obtain ⟨length, rfl⟩ := Read.fixed_eq_ok_iff.mp alone
  refine ⟨bytes ++ [], ?_, same, parted⟩
  rw [List.append_nil]
  exact length

theorem exists_used_of_move {made : Move} (moved : reader.move made = .ok next) :
    ∃ used, made.Takes used ∧ next.packet = reader.packet ∧
      reader.remaining = used ++ next.remaining := by
  cases made with
  | readInt1 =>
      obtain ⟨used, ⟨value, alone⟩, same, parted⟩ :=
        exists_used_of_map_read Read.takesPrefix_int1 moved
      obtain rfl := Read.int1_eq_ok_iff.mp alone
      refine ⟨Write.int1 value ++ [], ?_, same, parted⟩
      rfl
  | readLenenc => exact exists_used_of_map_read Read.takesPrefix_lenencLength moved
  | readFixed width => exact exists_used_of_skip moved
  | readLenencBytes => exact exists_used_of_map_read Read.takesPrefix_nullableStringLenenc moved
  | skip width => exact exists_used_of_skip moved
  | skipLenencBytes =>
      rw [move, skipLenencBytes_eq] at moved
      exact exists_used_of_map_read Read.takesPrefix_nullableStringLenenc moved

/-- Inside a packet, the position and the count of bytes that remain make up its length. -/
theorem StandsIn.position_add_length (stands : reader.StandsIn packet) :
    reader.position + reader.remaining.length = packet.length := by
  have inside := stands.remaining_suffix.length_le
  rw [position, stands.packet_eq]
  omega

theorem standsIn_of_move {made : Move} (stands : reader.StandsIn packet)
    (moved : reader.move made = .ok next) : next.StandsIn packet := by
  obtain ⟨used, _, same, parted⟩ := exists_used_of_move moved
  exact stands.of_used same parted

/-- The position grows by the count of bytes that a move takes. -/
theorem exists_taken_of_move {made : Move} (stands : reader.StandsIn packet)
    (moved : reader.move made = .ok next) :
    ∃ used, made.Takes used ∧ reader.remaining = used ++ next.remaining ∧
      next.position = reader.position + used.length := by
  obtain ⟨used, taken, _, parted⟩ := exists_used_of_move moved
  have before := stands.position_add_length
  have after := (standsIn_of_move stands moved).position_add_length
  rw [parted, List.length_append] at before
  exact ⟨used, taken, parted, by omega⟩

theorem standsIn_afterMove (stands : reader.StandsIn packet) (made : Move) :
    (reader.afterMove made).StandsIn packet ∧
      reader.position ≤ (reader.afterMove made).position := by
  unfold afterMove
  split
  · rename_i next moved
    obtain ⟨used, _, _, grown⟩ := exists_taken_of_move stands moved
    exact ⟨standsIn_of_move stands moved, grown ▸ Nat.le_add_right _ _⟩
  · exact ⟨stands, Nat.le_refl _⟩

/-! ## Any count of moves -/

theorem standsIn_afterMoves (stands : reader.StandsIn packet) (moves : List Move) :
    (reader.afterMoves moves).StandsIn packet ∧
      reader.position ≤ (reader.afterMoves moves).position := by
  induction moves generalizing reader with
  | nil => exact ⟨stands, Nat.le_refl _⟩
  | cons made moves ih =>
      obtain ⟨standsNext, forward⟩ := standsIn_afterMove stands made
      obtain ⟨standsLast, further⟩ := ih standsNext
      exact ⟨standsLast, Nat.le_trans forward further⟩

theorem standsIn_of_placed
    (placed : reader = start packet ∨ ∃ position, at? packet position = .ok reader) :
    reader.StandsIn packet := by
  rcases placed with rfl | ⟨position, made⟩
  · exact ⟨rfl, List.suffix_refl packet⟩
  · unfold at? at made
    split at made
    · cases made
      exact standsIn_drop packet position
    · cases made

/-- A reader that was placed in a packet and moved on any number of times stands at a position
of the packet, which only grows, and has to read what is behind that position.  The next move
takes bytes from there and counts them; to pass over a datum is to read it. -/
theorem walk_stays_inside
    (placed : reader = start packet ∨ ∃ position, at? packet position = .ok reader)
    (moves : List Move) :
    let here := reader.afterMoves moves
    here.position ≤ packet.length ∧ here.remaining = packet.drop here.position ∧
      at? packet here.position = .ok here ∧
      (∀ later, here.position ≤ (here.afterMoves later).position) ∧
      (∀ made next, here.move made = .ok next → ∃ used, made.Takes used ∧
        here.remaining = used ++ next.remaining ∧
        next.position = here.position + used.length) ∧
      (∀ width, here.skip width = (here.readFixed width).map Prod.snd) ∧
      here.skipLenencBytes = here.readLenencBytes.map Prod.snd := by
  intro here
  have stands : here.StandsIn packet := (standsIn_afterMoves (standsIn_of_placed placed) moves).1
  refine ⟨stands.position_le, stands.remaining_eq, stands.at?_position, fun later => ?_,
    fun made next moved => ?_, fun width => rfl, skipLenencBytes_eq here⟩
  · exact (standsIn_afterMoves stands later).2
  · exact exists_taken_of_move stands moved

/-- Behind a string that is passed over and a NULL that is read as a length, a string is cut
short: the reader stays before it, whether it would read it or pass over it. -/
theorem walk_stops_before_cut_string :
    let packet : Bytes := [0xAA, 0x02, 1, 2, 0xFB, 0x05, 7]
    let reader : PacketReader := ⟨packet, packet.drop 1⟩
    let here := reader.afterMoves [.skipLenencBytes, .readLenenc, .readLenencBytes]
    at? packet 1 = .ok reader ∧ here.position = 5 ∧
      here.remaining = packet.drop here.position ∧
      here.skipLenencBytes = .error .unexpectedEof ∧
      here.readLenencBytes.map Prod.snd = .error .unexpectedEof := by
  intro packet reader here
  have placed : at? packet 1 = .ok reader := rfl
  obtain ⟨_, behind, _, _, _, _, agree⟩ := walk_stays_inside (Or.inr ⟨1, placed⟩)
    [.skipLenencBytes, .readLenenc, .readLenencBytes]
  have cut : here.skipLenencBytes = .error .unexpectedEof := rfl
  exact ⟨placed, rfl, behind, cut, agree.symm.trans cut⟩

end RowCursor.PacketReader
