import RowCursor.Proofs.Row.Attachment
import RowCursor.Proofs.Row.MetadataSwap

/-!
# Rows whose memory can be trusted

A row is made from its packet, read, and given metadata, in any order.  Its memory stays
sound as long as no new metadata moves the columns in front of the remembered one.  Text
does not move, and a binary row remembers nothing when its bitmap is decoded; so only the
later metadata of a binary row can do harm.
-/

set_option autoImplicit false

namespace RowCursor.PacketRow

variable {row : PacketRow} {packet : Bytes} {encoding : RowEncoding}
variable {columns : Columns}

/-- The row was made from the packet, read and given metadata, in any order.  Where other
metadata had been attached to a binary row, the columns in front of the one that it
remembers lie alike under both. -/
inductive Reachable (packet : Bytes) (encoding : RowEncoding) : PacketRow → Prop
  | made {row : PacketRow} (made : ofPacket? packet encoding = .ok row) :
      Reachable packet encoding row
  | attached {row after : PacketRow} {columns : Columns} (reached : Reachable packet encoding row)
      (attached : row.setColumns columns = .ok after)
      (alike : encoding = .binary → ∀ old, row.columns = some old →
        ∀ column offset, row.found = some (column, offset) → row.LieAlike old columns column) :
      Reachable packet encoding after
  | read {α : Type} {row : PacketRow} (reached : Reachable packet encoding row)
      (read : RowRead α) : Reachable packet encoding (read.step.after row)

theorem Reachable.encoding_eq (reached : Reachable packet encoding row) :
    row.encoding = encoding := by
  induction reached with
  | made made => exact encoding_of_ofPacket? made
  | attached _ attached _ ih => exact (encoding_of_setColumns attached).trans ih
  | read _ read ih => exact (keeps_encoding_step (.read read) _).trans ih

theorem Reachable.decoded (reached : Reachable packet .binary row) :
    ∃ count, Decoded packet count row := by
  induction reached with
  | made made => exact ⟨_, decoded_of_ofPacket? made⟩
  | attached _ attached _ ih =>
      obtain ⟨count, decoded⟩ := ih
      rw [← after_attach_of_ok attached]
      exact ⟨_, decoded.attach _⟩
  | read _ read ih =>
      obtain ⟨count, decoded⟩ := ih
      exact ⟨_, decoded.step (.read read)⟩

theorem Reachable.afterReads (reached : Reachable packet encoding row)
    (history : List (Sigma RowRead)) : Reachable packet encoding (row.afterReads history) := by
  induction history generalizing row with
  | nil => exact reached
  | cons read later ih => exact ih (reached.read read.2)

theorem walk_of_text (text : row.encoding = .text) (metadata : Option Columns) (count index : Nat)
    (reader : PacketReader) :
    walk { row with columns := metadata } count index reader = row.walk count index reader := by
  induction count generalizing index reader with
  | zero => rfl
  | succ count ih =>
      have skip : skipColumn { row with columns := metadata } index reader =
          row.skipColumn index reader := by
        simp only [skipColumn, text]
      rw [walk, walk, skip]
      cases row.skipColumn index reader with
      | error error => rfl
      | ok behind => exact ih (index + 1) behind

/-- Text lies alike under any metadata. -/
theorem CacheSound.with_columns_of_text (sound : CacheSound row) (text : row.encoding = .text)
    (metadata : Option Columns) : CacheSound { row with columns := metadata } := by
  refine ⟨sound.home_le, ?_⟩
  intro column offset found
  obtain ⟨reader, located, position⟩ := sound.found_eq column offset found
  refine ⟨reader, ?_, position⟩
  have inside : home { row with columns := metadata } ≤ row.packet.length := sound.home_le
  rw [locate_eq_walk sound.home_le] at located
  rw [locate_eq_walk inside, walk_of_text text]
  exact located

theorem Reachable.cacheSound (reached : Reachable packet encoding row) : CacheSound row := by
  induction reached with
  | made made => exact (unread_of_ofPacket? made).cacheSound
  | @attached row after columns reached attached alike sound =>
      rcases setColumns_cases attached with ⟨rfl, flagged⟩ | ⟨_, complete, rfl⟩
      · cases encoding with
        | text => exact sound.with_columns_of_text reached.encoding_eq _
        | binary =>
            -- The bitmap is decoded, so there was metadata before.
            obtain ⟨count, decoded⟩ := reached.decoded
            obtain ⟨flags, known, _⟩ := flagged reached.encoding_eq
            cases before : row.columns with
            | none =>
                have size := decoded.size_eq
                have undecoded := decoded.nullFlags_eq
                rw [before] at size
                rw [← size, known] at undecoded
                cases undecoded
            | some old => exact sound.with_columns reached.encoding_eq before (alike rfl old before)
      · exact CacheSound.of_not_found complete rfl
  | @read α row _ read sound =>
      obtain ⟨_, found, left, kept⟩ := read.yields row row.found sound
      have left : read.step.after row = { row with found } := left
      rw [left]
      exact kept

end RowCursor.PacketRow
