import RowCursor.Proofs.Row.Accessors

/-!
# Attaching metadata in the course of reading

Metadata may be attached at any time, again and again, between reads of any outcome.  A
binary row decodes its NULL bitmap for the first metadata whose bitmap lies in the packet,
and refuses every other count of columns from then on.  A refused attachment leaves the row
as it was.  The bits of the decoded bitmap say which columns are NULL, whatever is attached
later and whatever the row remembers by then.
-/

set_option autoImplicit false

namespace RowCursor

open Step (Keeps)

/-! ## Reads change only the memory -/

namespace PacketRow

/-- The row as if nothing was found yet. -/
def withoutMemory (row : PacketRow) : PacketRow := { row with found := none }

theorem keeps_of_column {α : Type} {index : Nat} (read : RowRead α)
    (own : read.column? = some index) : Keeps withoutMemory read.step := by
  intro row
  obtain ⟨result, yields⟩ := yields_of_column (row.yields_find_again index) read own
  obtain ⟨_, later, left, _⟩ := yields row.found rfl
  have kept := congrArg withoutMemory left
  exact kept

theorem keeps_toOwned : Keeps withoutMemory toOwned := by
  unfold toOwned
  refine Keeps.get_bind fun row => ?_
  refine Keeps.bind (Keeps.lift _) fun columns => ?_
  refine Keeps.bind (Keeps.mapM ?_ _) fun values => Keeps.lift _
  intro index
  exact keeps_of_column (.columnValue index) rfl

end PacketRow

theorem RowRead.keeps {α : Type} (read : RowRead α) : Keeps PacketRow.withoutMemory read.step := by
  cases read with
  | columnValue index => exact PacketRow.keeps_of_column (.columnValue index) rfl
  | isNull index => exact PacketRow.keeps_of_column (.isNull index) rfl
  | length index => exact PacketRow.keeps_of_column (.length index) rfl
  | getValue factory index => exact PacketRow.keeps_of_column (.getValue factory index) rfl
  | toOwned => exact PacketRow.keeps_toOwned

/-! ## Histories of a row -/

namespace PacketRow

/-- Attach metadata to the row, or fail and leave it. -/
def attach (columns : Columns) : Step PacketRow Unit := do
  set (← Step.lift ((← get).setColumns columns))

end PacketRow

/-- Whatever can be done with a row, by the type of its answer. -/
inductive RowOperation : Type → Type 1 where
  | attach (columns : Columns) : RowOperation Unit
  | read {α : Type} (read : RowRead α) : RowOperation α
  /-- Look at what needs no search: the encoding, the metadata, the count of columns. -/
  | inspect {α : Type} (view : PacketRow → α) : RowOperation α
  | write (index : Nat) (value : Option Bytes) : RowOperation Unit

namespace RowOperation

variable {α : Type}

def step : {α : Type} → RowOperation α → Step PacketRow α
  | _, attach columns => PacketRow.attach columns
  | _, read question => question.step
  | _, inspect view => do return view (← get)
  | _, write index value => Row.setColumnValue index value

/-- The count of columns for which this operation can decode a NULL bitmap. -/
def decodable? (packet : Bytes) : {α : Type} → RowOperation α → Option Nat
  | _, attach columns =>
    if PacketRow.bitmapHome + NullBitmap.length columns.size ≤ packet.length then
      some columns.size
    else none
  | _, read _ => none
  | _, inspect _ => none
  | _, write _ _ => none

end RowOperation

theorem NullBitmap.isNull_of_byte {bitmap : NullBitmap} {column : Nat} {byte : UInt8}
    (here : bitmap.bytes[(column + 2) / 8]? = some byte) :
    bitmap.isNull column = byte.toNat.testBit ((column + 2) % 8) := by
  simp only [isNull, reservedBits, here]

namespace PacketRow

variable {α : Type} {row : PacketRow} {packet : Bytes} {columns : Columns}
variable {count : Option Nat} {index : Nat}

/-- The row after some operations, of whatever outcome. -/
def afterOperations (row : PacketRow) (history : List (Sigma RowOperation)) : PacketRow :=
  history.foldl (fun row operation => operation.2.step.after row) row

/-- The count of columns for which the bitmap of a binary row is decoded in the end: the
first attachment that finds it complete decides. -/
def decodedCount? (packet : Bytes) (history : List (Sigma RowOperation)) : Option Nat :=
  history.findSome? fun operation => operation.2.decodable? packet

/-! ## Attaching -/

theorem answer_attach (columns : Columns) (row : PacketRow) :
    (attach columns).answer row = (row.setColumns columns).map fun _ => () := by
  rw [attach, Step.answer_get_bind, Step.answer_bind, Step.answer_lift, Step.after_lift]
  cases row.setColumns columns <;> rfl

theorem after_attach_of_ok {after : PacketRow} (attached : row.setColumns columns = .ok after) :
    (attach columns).after row = after := by
  rw [attach, Step.after_get_bind, Step.after_bind, Step.answer_lift, attached]
  rfl

/-- A refused attachment leaves the row as it was. -/
theorem after_attach_of_error {error : Error} (refused : row.setColumns columns = .error error) :
    (attach columns).after row = row := by
  rw [attach, Step.after_get_bind, Step.after_bind, Step.answer_lift, refused]
  exact Step.after_lift _ _

theorem keeps_encoding_attach (columns : Columns) : Keeps encoding (attach columns) := by
  intro row
  cases outcome : row.setColumns columns with
  | ok after =>
      rw [after_attach_of_ok outcome]
      exact encoding_of_setColumns outcome
  | error error => rw [after_attach_of_error outcome]

/-! ## What holds of a binary row at any time -/

/-- What a binary row over a packet holds once its bitmap is decoded for so many columns,
or as long as it is not decoded. -/
structure Decoded (packet : Bytes) (count : Option Nat) (row : PacketRow) : Prop where
  encoding_eq : row.encoding = .binary
  packet_eq : row.packet = packet
  nullFlags_eq : row.nullFlags =
    count.map fun count => NullBitmap.flags ⟨bitmapBytes packet count⟩ count
  size_eq : row.columns.map Array.size = count
  complete : ∀ size, count = some size → bitmapHome + NullBitmap.length size ≤ packet.length

theorem decoded_of_ofPacket? (made : ofPacket? packet .binary = .ok row) :
    Decoded packet none row := by
  cases packet with
  | nil => cases made
  | cons first rest =>
      simp only [ofPacket?, ofBinary?] at made
      split at made
      · cases made
        refine ⟨rfl, rfl, rfl, rfl, ?_⟩
        rintro size ⟨⟩
      · cases made

theorem Decoded.of_withoutMemory {other : PacketRow} (decoded : Decoded packet count row)
    (same : other.withoutMemory = row.withoutMemory) : Decoded packet count other where
  encoding_eq := (congrArg encoding same).trans decoded.encoding_eq
  packet_eq := (congrArg PacketRow.packet same).trans decoded.packet_eq
  nullFlags_eq := (congrArg nullFlags same).trans decoded.nullFlags_eq
  size_eq := (congrArg (fun row => row.columns.map Array.size) same).trans decoded.size_eq
  complete := decoded.complete

theorem Decoded.setColumns_of_some {size : Nat} (decoded : Decoded packet (some size) row)
    (columns : Columns) :
    row.setColumns columns =
      if size = columns.size then .ok { row with columns := some columns }
      else .error (.badUsage (.metadataMismatch size columns.size)) := by
  have flags : (NullBitmap.flags ⟨bitmapBytes packet size⟩ size).size = size := Array.size_ofFn
  rw [setColumns, decoded.encoding_eq, decoded.nullFlags_eq]
  simp only [Option.map_some, flags]

theorem Decoded.setColumns_of_none (decoded : Decoded packet none row) (columns : Columns) :
    row.setColumns columns =
      if bitmapHome + NullBitmap.length columns.size ≤ packet.length then
        .ok { row with
          nullFlags := some (NullBitmap.flags ⟨bitmapBytes packet columns.size⟩ columns.size)
          home := bitmapHome + NullBitmap.length columns.size
          found := none
          columns := some columns }
      else .error .unexpectedEof := by
  have decodes : row.setColumns columns =
      (row.decodeBitmap columns.size).map fun row => { row with columns := some columns } := by
    rw [setColumns, decoded.encoding_eq, decoded.nullFlags_eq]
    rfl
  rw [decodes, decodeBitmap_eq, decoded.packet_eq]
  split <;> rfl

theorem Decoded.attach (decoded : Decoded packet count row) (columns : Columns) :
    Decoded packet (count.or ((RowOperation.attach columns).decodable? packet))
      ((attach columns).after row) := by
  cases count with
  | some size =>
      have outcome := decoded.setColumns_of_some columns
      split at outcome
      · rename_i same
        rw [after_attach_of_ok outcome]
        exact ⟨decoded.encoding_eq, decoded.packet_eq, decoded.nullFlags_eq,
          congrArg some same.symm, decoded.complete⟩
      · rw [after_attach_of_error outcome]
        exact decoded
  | none =>
      have outcome := decoded.setColumns_of_none columns
      rw [Option.none_or, RowOperation.decodable?]
      split at outcome
      · rename_i complete
        rw [after_attach_of_ok outcome, if_pos complete]
        refine ⟨decoded.encoding_eq, decoded.packet_eq, rfl, rfl, ?_⟩
        rintro size ⟨⟩
        exact complete
      · rename_i cut
        rw [after_attach_of_error outcome, if_neg cut]
        exact decoded

theorem Decoded.step (decoded : Decoded packet count row) (operation : RowOperation α) :
    Decoded packet (count.or (operation.decodable? packet)) (operation.step.after row) := by
  cases operation with
  | attach columns => exact decoded.attach columns
  | read question =>
      rw [RowOperation.decodable?, Option.or_none]
      exact decoded.of_withoutMemory (question.keeps row)
  | inspect view =>
      rw [RowOperation.decodable?, Option.or_none]
      exact decoded
  | write index value =>
      rw [RowOperation.decodable?, Option.or_none]
      exact decoded

theorem Decoded.afterOperations (decoded : Decoded packet count row)
    (history : List (Sigma RowOperation)) :
    Decoded packet (count.or (decodedCount? packet history)) (row.afterOperations history) := by
  induction history generalizing row count with
  | nil =>
      rw [decodedCount?, List.findSome?_nil, Option.or_none]
      exact decoded
  | cons operation later ih =>
      have next := ih (decoded.step operation.2)
      rw [Option.or_assoc] at next
      have first : decodedCount? packet (operation :: later) =
          (operation.2.decodable? packet).or (decodedCount? packet later) := by
        rw [decodedCount?, List.findSome?_cons]
        cases operation.2.decodable? packet <;> rfl
      rw [first]
      exact next

theorem Decoded.answer_isNull {size : Nat} (decoded : Decoded packet (some size) row)
    (inside : index < size) :
    (isNull index).answer row = .ok (NullBitmap.isNull ⟨bitmapBytes packet size⟩ index) := by
  have answered : (isNull index).answer row = row.isNullFrom index ((find index).answer row) :=
    (yields_isNull (row.yields_find_again index) row.found rfl).1
  obtain ⟨columns, attached, same⟩ := Option.map_eq_some_iff.mp decoded.size_eq
  have known : row.column index = .ok columns[index] :=
    column_of_attached attached (Array.getElem?_eq_getElem (by omega))
  rw [answered, isNullFrom_of_binary decoded.encoding_eq known,
    nullFlag_of_flags decoded.nullFlags_eq inside]

/-! ## Bits of the packet -/

theorem length_bitmapBytes {count : Nat}
    (complete : bitmapHome + NullBitmap.length count ≤ packet.length) :
    (bitmapBytes packet count).length = (count + 9) / 8 := by
  rw [bitmapBytes, List.length_take_of_le]
  · rfl
  · rw [List.length_drop]
    omega

/-- No bit of the bitmap lies behind its last byte. -/
theorem exists_byte_of_complete {count : Nat}
    (complete : bitmapHome + NullBitmap.length count ≤ packet.length) (inside : index < count) :
    ∃ byte, (bitmapBytes packet count)[(index + 2) / 8]? = some byte ∧
      packet[1 + (index + 2) / 8]? = some byte := by
  have length := length_bitmapBytes complete
  have within : (index + 2) / 8 < (bitmapBytes packet count).length := by omega
  have same : (bitmapBytes packet count)[(index + 2) / 8]? = packet[1 + (index + 2) / 8]? := by
    rw [bitmapBytes, List.getElem?_take_of_lt, List.getElem?_drop]
    · rfl
    · rw [length] at within
      exact within
  refine ⟨_, List.getElem?_eq_getElem within, ?_⟩
  rw [← same, List.getElem?_eq_getElem within]

/-! ## At any time -/

theorem keeps_encoding_step (operation : RowOperation α) : Keeps encoding operation.step := by
  intro row
  cases operation with
  | attach columns => exact keeps_encoding_attach columns row
  | read question =>
      have kept := congrArg encoding (question.keeps row)
      exact kept
  | inspect view => rfl
  | write index value => rfl

theorem encoding_afterOperations (row : PacketRow) (history : List (Sigma RowOperation)) :
    (row.afterOperations history).encoding = row.encoding := by
  induction history generalizing row with
  | nil => rfl
  | cons operation later ih => exact (ih _).trans (keeps_encoding_step operation.2 row)

theorem encoding_of_ofPacket? {encoding : RowEncoding} (made : ofPacket? packet encoding = .ok row) :
    row.encoding = encoding := by
  cases encoding with
  | text =>
      cases made
      rfl
  | binary => exact (decoded_of_ofPacket? made).encoding_eq

theorem afterOperations_append (row : PacketRow) (history later : List (Sigma RowOperation))
    (operation : RowOperation α) :
    row.afterOperations (history ++ ⟨α, operation⟩ :: later) =
      (operation.step.after (row.afterOperations history)).afterOperations later := by
  rw [afterOperations, List.foldl_append, List.foldl_cons]
  rfl

/-- What attaching metadata for so many columns answers, once the bitmap was decoded for
`count` of them, or was not. -/
def attachOutcome (packet : Bytes) (size : Nat) : RowEncoding → Option Nat → Except Error Unit
  | .text, _ => .ok ()
  | .binary, some count =>
    if count = size then .ok () else .error (.badUsage (.metadataMismatch count size))
  | .binary, none =>
    if bitmapHome + NullBitmap.length size ≤ packet.length then .ok () else .error .unexpectedEof

theorem Decoded.answer_attach (decoded : Decoded packet count row) (columns : Columns) :
    (PacketRow.attach columns).answer row = attachOutcome packet columns.size .binary count := by
  rw [PacketRow.answer_attach]
  cases count with
  | some size =>
      rw [decoded.setColumns_of_some columns, attachOutcome]
      split <;> rfl
  | none =>
      rw [decoded.setColumns_of_none columns, attachOutcome]
      split <;> rfl

theorem carries_of_attached {columns : Columns}
    (attached : (attach columns).answer row = .ok ()) : ((attach columns).after row).Carries columns := by
  rw [answer_attach] at attached
  cases outcome : row.setColumns columns with
  | ok after =>
      rw [after_attach_of_ok outcome]
      exact carries_of_setColumns outcome
  | error error =>
      rw [outcome] at attached
      cases attached

/-- Attaching metadata fails exactly if the packet is too short for the bitmap, or the bitmap
was decoded for another count of columns; a text row takes any metadata.  A failure leaves
no trace in what any later operation answers.  Once metadata is attached to a binary row,
the bits of its packet say which columns are NULL, whatever comes later. -/
theorem attaching_is_atomic_and_fixes_nulls {encoding : RowEncoding}
    (made : ofPacket? packet encoding = .ok row) (history : List (Sigma RowOperation))
    (columns : Columns) :
    let before := row.afterOperations history
    (attach columns).answer before =
      attachOutcome packet columns.size encoding (decodedCount? packet history) ∧
    (∀ error, (attach columns).answer before = .error error →
      ∀ (later : List (Sigma RowOperation)) (α : Type) (operation : RowOperation α),
        operation.step.answer (row.afterOperations (history ++ ⟨Unit, .attach columns⟩ :: later)) =
          operation.step.answer (row.afterOperations (history ++ later))) ∧
    (encoding = .binary → (attach columns).answer before = .ok () →
      (bitmapBytes packet columns.size).length = (columns.size + 9) / 8 ∧
      ∀ (later : List (Sigma RowOperation)) (index : Nat), index < columns.size →
        ∃ byte, (bitmapBytes packet columns.size)[(index + 2) / 8]? = some byte ∧
          packet[1 + (index + 2) / 8]? = some byte ∧
          (isNull index).answer
              (row.afterOperations (history ++ ⟨Unit, .attach columns⟩ :: later)) =
            .ok (byte.toNat.testBit ((index + 2) % 8))) := by
  intro before
  have encoded : before.encoding = encoding :=
    (row.encoding_afterOperations history).trans (encoding_of_ofPacket? made)
  refine ⟨?_, ?_, ?_⟩
  · cases encoding with
    | text =>
        rw [answer_attach, setColumns, encoded]
        rfl
    | binary => exact ((decoded_of_ofPacket? made).afterOperations history).answer_attach columns
  · intro error refused later α operation
    rw [answer_attach] at refused
    cases outcome : before.setColumns columns with
    | ok after =>
        rw [outcome] at refused
        cases refused
    | error error =>
        have left : (RowOperation.attach columns).step.after before = before :=
          after_attach_of_error outcome
        rw [afterOperations_append, left, afterOperations, afterOperations, List.foldl_append]
        rfl
  · rintro rfl attached
    have decoded := ((decoded_of_ofPacket? made).afterOperations history).attach columns
    have carries := carries_of_attached attached
    have size := decoded.size_eq
    rw [carries.1] at size
    rw [← size] at decoded
    have complete := decoded.complete _ rfl
    refine ⟨length_bitmapBytes complete, ?_⟩
    intro later index inside
    obtain ⟨byte, bits, here⟩ := exists_byte_of_complete complete inside
    refine ⟨byte, bits, here, ?_⟩
    rw [afterOperations_append, ← NullBitmap.isNull_of_byte bits]
    exact (decoded.afterOperations later).answer_isNull inside

/-- Metadata for too many columns is refused, then ten columns are attached of which every
second one is NULL.  The eighth has its bit in the second byte of the bitmap, also after
metadata for nine columns was refused. -/
theorem eighth_of_ten_columns_stays_null :
    let packet : Bytes := [0x00, 0xA8, 0x0A, 0x00, 0x02, 0x04, 0x06, 0x08]
    let metadata (count : Nat) : Columns := Array.replicate count (.ofType .tiny)
    let refused : Sigma RowOperation := ⟨_, .attach (metadata 60)⟩
    let later : List (Sigma RowOperation) := [⟨_, .read (.length 8)⟩, ⟨_, .attach (metadata 9)⟩]
    ∃ row, ofPacket? packet .binary = .ok row ∧
      (attach (metadata 60)).answer row = .error .unexpectedEof ∧
      (columnValue 8).answer (row.afterOperations [refused, ⟨_, .attach (metadata 10)⟩]) =
        (columnValue 8).answer (row.afterOperations [⟨_, .attach (metadata 10)⟩]) ∧
      (attach (metadata 10)).answer (row.afterOperations [refused]) = .ok () ∧
      (isNull 7).answer (row.afterOperations (refused :: ⟨_, .attach (metadata 10)⟩ :: later)) =
        .ok true := by
  intro packet metadata refused later
  have made : ofPacket? packet .binary = .ok
      { packet, encoding := .binary, home := bitmapHome, found := none, columns := none,
        nullFlags := none } := rfl
  obtain ⟨cut, forgotten, _⟩ := attaching_is_atomic_and_fixes_nulls made [] (metadata 60)
  have cut := cut.trans (by decide : _ = .error .unexpectedEof)
  obtain ⟨attached, _, fixed⟩ := attaching_is_atomic_and_fixes_nulls made [refused] (metadata 10)
  have attached := attached.trans (by decide : _ = .ok ())
  obtain ⟨_, bits⟩ := fixed rfl attached
  obtain ⟨byte, _, here, marked⟩ := bits later 7 (by decide)
  have second : byte = 0x0A := (Option.some.inj here).symm
  rw [second] at marked
  refine ⟨_, made, cut, ?_, attached, marked⟩
  exact forgotten _ cut [⟨_, .attach (metadata 10)⟩] _ (.read (.columnValue 8))

end PacketRow

end RowCursor
